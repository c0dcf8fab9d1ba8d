import MaskedPath.CommandLine.Console
import MaskedPath.Markup.Basic

/-!
# A console

A console whose screen is as wide as any line. Markup is dropped, and what is left stands as it is.
-/

namespace MaskedPath.CommandLine

def plainAll (texts : List WideText) : Except Markup.Error (List WideText) := texts.mapM Markup.plain

/-- What is printed of a table. Of several faults the first in the first column is reported, and one in
the title last. -/
def Table.plain (t : Table) : Except Markup.Error Table := do
  let columns ← (columnsOf t.columns.length (t.columns :: t.rows)).mapM plainAll
  let rows := columnsOf (t.rows.length + 1) columns
  return ⟨← Markup.plain t.title, rows.head?.getD [], rows.drop 1⟩

def Output.plain : Output → Except Markup.Error Output
  | .text t => (Markup.plain t).map .text
  | .table t => t.plain.map .table

end MaskedPath.CommandLine

namespace MaskedPath.Standard

open MaskedPath.CommandLine

def Markup.raised (e : Markup.Error) : Raised :=
  ⟨["MarkupError", "ConsoleError", "Exception"],
    String.ofList (e.message.map fun c => c.toChar?.getD Utf8.replacement)⟩

scoped instance console : Console where
  display _ output := output.plain.mapError Markup.raised

end MaskedPath.Standard
