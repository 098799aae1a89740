import TraceView.Log.Filter
import TraceView.Machine.Basic

/-!
# Journals

Where log lines go: through a filter to the end of a file, or nowhere that is kept.
-/

namespace TraceView.Machine

structure Journal where
  filter : Log.Filter
  /-- Place of the file. -/
  file : Option Path

/-- Opens a journal; its file is made if it is not there. -/
def openJournal (m : Machine) (file : Option Path) : Except Fault (Machine × Journal) := do
  let filter := Log.Filter.ofSetting (m.env? "LIVE_TRACE_LOG")
  match file with
  | none => return (m, ⟨filter, none⟩)
  | some p =>
    let place ← m.tree.writePlace m.cwd p
    match m.tree.node? place with
    | some (.program _) => throw .denied
    | _ => return ({ m with tree := m.tree.append place [] }, ⟨filter, some place⟩)

def record (m : Machine) (journal : Journal) (line : Log.Line) : Machine :=
  match journal.file with
  | none => m
  | some place =>
    if journal.filter.lets line then
      { m with tree := m.tree.append place (Text.Utf8.encode (line.text ++ "\n").toList) }
    else m

end TraceView.Machine
