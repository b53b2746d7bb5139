/-!
# What can go wrong

Each kind of failure names its cause; the wording of all of them is in the
`message` functions.
-/

namespace Syllogistic

/-- Why a text is no statement, no premise, or no well-formed statement. -/
inductive GrammarFault
  /-- There is nothing but blanks, or an empty name. -/
  | nothingToRead
  /-- The last quote of the clause is never closed. -/
  | unclosedQuote (clause : String)
  /-- No word of the clause is a copula. -/
  | noCopula (clause : String)
  /-- A side of the copula names no set. -/
  | noName (clause : String)
  /-- A word follows the name of a set. -/
  | extraWord (word : String)
  /-- A keyword stands where a name should. -/
  | reservedWord (word : String)
  /-- The subject has no quantifier. -/
  | unquantifiedSubject (text : String)
  /-- The predicate has a quantifier. -/
  | quantifiedPredicate (text : String)
  /-- The subject is negated. -/
  | negatedSubject (text : String)
  /-- Subject and predicate name the same set. -/
  | sameName (name : String)
  /-- A line without a copula has more than one word. -/
  | severalWords (line : String)
deriving DecidableEq, Repr

/-- Why no diagram can be drawn over some names. -/
inductive SizeFault
  /-- There are fewer than two names. -/
  | tooFew (count : Nat)
  /-- There would be more than three names. -/
  | tooMany (names : List String)
deriving DecidableEq, Repr

/-- A witness all of whose regions are excluded, with the statements that exclude them. -/
structure Conflict where
  /-- The text of the particular premise that cannot have a witness. -/
  witness : String
  /-- The texts of the universal premises that leave it none. -/
  exclusions : List String
deriving DecidableEq, Repr

/-- An operation asked for in the wrong stage of a model. -/
inductive StageFault
  /-- A conclusion is evaluated before the model is built. -/
  | notBuilt
  /-- A built model is to take a premise, or to be built again. -/
  | alreadyBuilt
deriving DecidableEq, Repr

/-- Why an operation on a model fails. -/
inductive Error
  | grammar (fault : GrammarFault)
  | size (fault : SizeFault)
  | conflict (found : Conflict)
  | stage (fault : StageFault)
deriving DecidableEq, Repr

namespace GrammarFault

/-- The wording of a fault about the expression `text`. -/
private def about (text complaint : String) : String :=
  "Invalid expression \"" ++ text ++ "\": " ++ complaint

/-- The wording of a fault in a text. -/
def message : GrammarFault → String
  | nothingToRead => "Invalid expression: nothing to read"
  | unclosedQuote clause => about clause "unterminated quote"
  | noCopula clause => about clause "no relation found"
  | noName clause => about clause "missing a set name"
  | extraWord word => "Invalid expression with unrecognizable token \"" ++ word ++ "\""
  | reservedWord word => "Invalid expression: \"" ++ word ++ "\" cannot be used as a set name"
  | unquantifiedSubject text => about text "statements must begin with \"all\" or \"some\""
  | quantifiedPredicate text => about text "\"all\" or \"some\" may only begin a statement"
  | negatedSubject text => about text "only the predicate of a statement may be negated"
  | sameName name => "Invalid expression with identical set name \"" ++ name ++ "\""
  | severalWords line =>
      "Invalid set name \"" ++ line ++ "\": quote set names of more than one word"

end GrammarFault

/-- The wording of a wrong number of names. -/
def SizeFault.message (fault : SizeFault) : String :=
  "Only two or three sets can be supported but the diagram " ++
    match fault with
    | .tooFew count => "has " ++ toString count
    | .tooMany names => "would have " ++ ", ".intercalate names

/-- The wording of a conflict. -/
def Conflict.message (conflict : Conflict) : String :=
  "conflicts between [" ++ conflict.witness ++ "] and " ++
    ", ".intercalate (conflict.exclusions.map fun text => "[" ++ text ++ "]")

/-- The wording of an operation in the wrong stage. -/
def StageFault.message : StageFault → String
  | .notBuilt => "The diagram must be built before evaluation"
  | .alreadyBuilt => "The diagram is built, start a new diagram to add premises"

/-- The wording of a failure. -/
def Error.message : Error → String
  | .grammar fault => fault.message
  | .size fault => fault.message
  | .conflict found => found.message
  | .stage fault => fault.message

end Syllogistic
