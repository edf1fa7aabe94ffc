import SessionLedger.Toml.Reader

/-!
# TOML documents

The members of a whole document: its lines one after the other, where a header decides into which
table the assignments behind it go. A document in which a line is malformed or assigns to a key
again is not read at all.

## Main definitions

* `Toml.Document.after` — what a line does
* `Toml.read` — the members of a document
-/

namespace SessionLedger

namespace Toml

/-- What is read of a document: the way to the table that is open, and the members of the whole. -/
structure Document where
  way : List String := []
  members : Members := []

namespace Document

/-- The document after a line. -/
def after (d : Document) : Statement → Option Document
  | .assignment key v =>
    (within false (assign key v) d.way d.members).map fun members => { d with members }
  | .header key =>
    (openTable key d.members).map fun members => ⟨key.way ++ [key.name], members⟩
  | .element key =>
    (openElement key d.members).map fun members => ⟨key.way ++ [key.name], members⟩

/-- The document of some lines. -/
def ofStatements (statements : List Statement) : Option Document :=
  statements.foldlM after {}

end Document

/-- A text in which every line ends with a line feed alone. -/
def withLineFeeds : List Char → List Char
  | '\r' :: '\n' :: rest => '\n' :: withLineFeeds rest
  | c :: rest => c :: withLineFeeds rest
  | [] => []

/-- The members of a document; a byte order mark may stand before them. -/
def read (text : String) : Option Members := do
  let cs := match text.toList with
    | '\ufeff' :: rest => rest
    | cs => cs
  let statements ← Statement.readAll (withLineFeeds cs)
  (Document.ofStatements statements).map Document.members

end Toml

end SessionLedger
