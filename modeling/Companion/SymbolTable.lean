import Companion.ResourceId
import Companion.Round.Basic

/-!
# Symbol tables

Annotations carry ids as numbers.  A symbol table turns the number of an id, as it is used in some
package, back into the constant of the resource index that it was written as.
-/

namespace Companion

open Text

/-- A number as it is used in a package. -/
structure SymbolKey where
  /-- The package of the class with the annotation. -/
  package : String
  /-- The number. -/
  value : Int32
  deriving DecidableEq, Repr

/-- A constant in a nested class of a resource index. -/
structure Symbol where
  /-- The nested class. -/
  category : String
  /-- The constant. -/
  member : String
  deriving DecidableEq, Repr

/-- A constant of an index with its value. -/
structure IndexEntry where
  /-- The constant. -/
  symbol : Symbol
  /-- Its value. -/
  value : Int32
  deriving DecidableEq, Repr

/-- The constants of an index that annotations refer to, with the values written there. -/
abbrev References := Table Symbol Int32

/-- The nested classes of an index whose constants can be bound. -/
def boundCategories : List String :=
  ["anim", "array", "attr", "bool", "color", "dimen", "drawable", "font", "id", "integer",
    "string"]

namespace SourceClass

/-- The integer constants of a class that stand for resources. -/
def entries (tree : SourceClass) : List IndexEntry :=
  if tree.name ∈ boundCategories then
    (tree.fields.filter fun field => field.type = "int").filterMap fun field =>
      field.intValue?.map fun value => ⟨⟨tree.name, field.name⟩, value⟩
  else []

mutual

/-- The entries of all classes nested in a class, to any depth. -/
def nestedEntries : SourceClass → List IndexEntry
  | ⟨_, _, _, nested⟩ => nestedEntriesAll nested

/-- The entries of several classes and of those nested in them. -/
def nestedEntriesAll : List SourceClass → List IndexEntry
  | [] => []
  | tree :: rest => tree.entries ++ nestedEntries tree ++ nestedEntriesAll rest

end

end SourceClass

namespace CompiledClass

/-- The integer constants of a compiled class that stand for resources. -/
def entries (compiled : CompiledClass) : List IndexEntry :=
  if compiled.name ∈ boundCategories then
    compiled.members.filterMap fun member =>
      member.constant.map fun value => ⟨⟨compiled.name, member.name⟩, value⟩
  else []

end CompiledClass

/-- The entries of an index, in the order in which they are declared. -/
def IndexForm.entries : IndexForm → List IndexEntry
  | .source tree => tree.nestedEntries
  | .compiled classes => classes.flatMap CompiledClass.entries

/-- The primary index class of a package. -/
def primaryIndex (package : String) : ClassName := .ofOuter package "R"

/-- A constant as a reference into the primary index of a package, whatever index it comes from. -/
def IndexEntry.reference (entry : IndexEntry) (package : String) : ResourceId :=
  .reference ((primaryIndex package).nested entry.symbol.category) entry.symbol.member entry.value

/-- The ids that numbers stand for. -/
structure SymbolTable where
  /-- The ids by package and number. -/
  ids : Table SymbolKey ResourceId

namespace SymbolTable

/-- The table without ids. -/
def empty : SymbolTable := ⟨.empty⟩

/-- The number of entries. -/
def size (symbols : SymbolTable) : Nat := symbols.ids.size

/-- Whether a key has no entry yet. -/
def isNew (symbols : SymbolTable) (key : SymbolKey) : Bool := !symbols.ids.contains key

/-- Record an id; the first one for a key is kept. -/
def record (symbols : SymbolTable) (key : SymbolKey) (id : ResourceId) : SymbolTable :=
  ⟨symbols.ids.insertIfNew key id⟩

/-- The id that a key stands for; a number without an entry stands for itself. -/
def idOf (symbols : SymbolTable) (key : SymbolKey) : ResourceId :=
  (symbols.ids.get? key).getD (.constant key.value)

/-- The table with an answer kept. -/
def remember (symbols : SymbolTable) (key : SymbolKey) : SymbolTable :=
  symbols.record key (symbols.idOf key)

/-- Record entries of an index for the annotations of a package. -/
def recordAll (symbols : SymbolTable) (package indexPackage : String)
    (entries : List IndexEntry) : SymbolTable :=
  entries.foldl
    (fun symbols entry => symbols.record ⟨package, entry.value⟩ (entry.reference indexPackage))
    symbols

/-- Record those constants of an index that annotations of a package refer to. -/
def registerIndex (symbols : SymbolTable) (package : String) (index : ResourceIndex)
    (references : References) : SymbolTable :=
  symbols.recordAll package index.package
    (index.form.entries.filter fun entry => references.contains entry.symbol)

/-- The package of an index type. -/
def packageOf (indexType : String) : String :=
  match splitLast? indexType with
  | some (package, _) => package
  | none => ""

/-- Record constants as annotations have them, for an index that is not known. -/
def registerSymbols (symbols : SymbolTable) (package indexType : String)
    (references : References) : SymbolTable :=
  symbols.recordAll package (packageOf indexType)
    (references.entries.map fun (symbol, value) => ⟨symbol, value⟩)

/-- A constant that an annotation refers to. -/
structure Mention where
  /-- The package of the class with the annotation. -/
  package : String
  /-- The constant and its index type. -/
  parts : IdValue.SymbolParts
  /-- The value written in the annotation. -/
  value : Int32
  deriving DecidableEq, Repr

/-- The constants that an annotation on a member of a package refers to. -/
def mentionsOf (package : String) (use : AnnotationUse) : List Mention :=
  use.values.keys.flatMap fun key =>
    (use.ids key).filterMap fun id =>
      id.symbolParts?.map fun parts => ⟨package, parts, id.value⟩

/-- The constants that uses of the given annotations refer to, in order. -/
def mentions (world : Universe) (markers : List String) : List Mention :=
  markers.flatMap fun marker =>
    (world.annotated marker).flatMap fun site =>
      ((site.member.use? marker).map (mentionsOf site.decl.package)).getD []

/-- Mentions by package and index type, both in order of first mention. -/
abbrev MentionTable := Table String (Table String References)

/-- Add a mention to its package and index type. -/
def addMention (table : MentionTable) (mention : Mention) : MentionTable :=
  let indices := (table.get? mention.package).getD .empty
  let references := (indices.get? mention.parts.indexType).getD .empty
  table.insert mention.package
    (indices.insert mention.parts.indexType
      (references.insert ⟨mention.parts.category, mention.parts.member⟩ mention.value))

/-- Register the constants of one index type that annotations of a package refer to. -/
def register (environment : Environment) (symbols : SymbolTable) (package indexType : String)
    (references : References) : SymbolTable :=
  match environment.index? indexType with
  | some index => symbols.registerIndex package index references
  | none => symbols.registerSymbols package indexType references

/-- The symbol table of a round, from all uses of the given annotations. -/
def ofRound (environment : Environment) (markers : List String) : SymbolTable :=
  let table := (mentions environment.world markers).foldl addMention .empty
  table.entries.foldl
    (fun symbols (package, indices) =>
      indices.entries.foldl
        (fun symbols (indexType, references) =>
          register environment symbols package indexType references)
        symbols)
    empty

end SymbolTable
end Companion
