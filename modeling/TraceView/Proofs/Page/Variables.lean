import TraceView.Page.Panel
import TraceView.Proofs.Html.ScriptElement
import TraceView.Proofs.Json.Guarded
import TraceView.Proofs.Json.Written

/-!
# The variables of a page

The block of variables inlines their values as data of a script. Nothing in the data closes the
script, and it means what the values mean. But it may open a script of its own inside a comment, and
then the end of the block is taken for the end of that one.
-/
namespace TraceView.Proofs.Page

open TraceView TraceView.Html TraceView.Page TraceView.Binding TraceView.Proofs.Html
open TraceView.Proofs.Json (Means meaning means_write read_guardScript)

/-- The block of the placement with the data inlined. -/
def block (placement : Placement) (token data : String) : String :=
  String.join ["<pre id=\"results-plain\" class=\"vars-plain\">",
    escape placement.toJson.writeIndented, "</pre><script nonce=\"", token,
    "\">window.userVars = ", data, ";</script>"]

theorem variables_written (placement : Placement) (flags : DisplayFlags) (token : String) :
    writePieces flags token (variablesPieces placement) =
      block placement token (guardScript placement.toJson.write) := by
  simp only [writePieces, variablesPieces, block, List.map_cons, List.map_nil, Piece.write]

/-- What is guarded closes no script, is not guarded twice, and is JSON of the meaning it had. So the
data of the block means what the placement means. All of that is about the text as JSON, and not
about the value that a script engine makes of it as an object literal. -/
theorem data_guarded :
    (∀ text, ¬ ClosesScript (guardScript text).toList ∧
      guardScript (guardScript text) = guardScript text ∧
      (∀ v, Means text.toList v → Means (guardScript text).toList v) ∧
      Json.read (guardScript text) = Json.read text) ∧
    ∀ (placement : Placement) flags token,
      writePieces flags token (variablesPieces placement) =
        block placement token (guardScript placement.toJson.write) ∧
      Means (guardScript placement.toJson.write).toList (meaning placement.toJson) := by
  have hmeans : ∀ text v, Means text.toList v → Means (guardScript text).toList v := by
    intro text v h
    rw [guardScript, String.toList_ofList]
    exact h.guard
  refine ⟨fun text => ⟨?_, guardScript_guardScript text, hmeans text, read_guardScript text⟩,
    fun placement flags token => ⟨variables_written placement flags token,
      hmeans _ _ (means_write placement.toJson)⟩⟩
  rw [guardScript, String.toList_ofList]
  exact not_closesScript_guard text.toList

/-- Behind the data the block is closed at once, but not in a script tag of a comment. -/
theorem scan_block {data : List Char} (h : scan data ≠ .ended) :
    scan (data ++ ";</script>".toList) = .ended ↔ (scan data).isDoubleEscaped = false := by
  rw [scan, List.foldl_append, ← scan]
  cases hscan : scan data with
  | ended => exact absurd hscan h
  | inside depth mark =>
    have hsemicolon : (ScriptState.inside depth mark).step ';' = .inside depth .text := by
      have halpha : Char.isAlpha ';' = false := rfl
      rcases mark with _ | _ | _ | _ | _ | _ | ⟨_ | _, _⟩ <;>
        simp [ScriptState.step, Depth.complete?, Depth.mark, Depth.begin, endsName, halpha]
    have hdepth : (ScriptState.inside depth mark).isDoubleEscaped =
        (ScriptState.inside depth .text).isDoubleEscaped := by
      cases depth <;> rfl
    have htag : ";</script>".toList = [';', '<', '/', 's', 'c', 'r', 'i', 'p', 't', '>'] := rfl
    rw [htag, List.foldl_cons, hsemicolon, hdepth]
    cases depth <;> decide

/-- The end of the block is lost just where the data leaves a script tag of a comment open. -/
theorem block_open_iff (placement : Placement) (flags : DisplayFlags) (token : String) :
    let data := guardScript placement.toJson.write
    writePieces flags token (variablesPieces placement) = block placement token data ∧
      scan data.toList ≠ .ended ∧
      ((scan data.toList).isDoubleEscaped = true ↔ SwallowsEnd data.toList) ∧
      (scan (data.toList ++ ";</script>".toList) = .ended ↔ ¬ SwallowsEnd data.toList) := by
  intro data
  have hclose : ¬ ClosesScript data.toList := by
    rw [show data.toList = _ from String.toList_ofList]
    exact not_closesScript_guard placement.toJson.write.toList
  obtain ⟨hopen, hdouble⟩ := scan_of_not_closesScript hclose
  refine ⟨variables_written placement flags token, hopen, hdouble, ?_⟩
  rw [scan_block hopen, ← hdouble, Bool.not_eq_true]

/-- A variable that is a comment with a script tag in it, `s = "<!--<script>"`. -/
def commented : Placement := .place "s = 1\n" [("s", .string "<!--<script>")]

theorem block_open_commented :
    (scan (guardScript commented.toJson.write).toList).isDoubleEscaped = true ∧
      scan ((guardScript commented.toJson.write).toList ++ ";</script>".toList) ≠ .ended := by
  decide +kernel

end TraceView.Proofs.Page
