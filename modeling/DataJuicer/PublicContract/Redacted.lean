import DataJuicer.Lib.Redaction
import DataJuicer.PublicContract.SafePayloads

/-! # Where a public text is changed

What the thirteen patterns match is replaced, and spaces are closed up, sentences are put together
and long texts are cut afterwards. A public text is safe exactly when no match takes in a place at
which it was changed so.
-/

namespace DataJuicer.PublicContract

open Regex

section Patterns

variable {db : CharData}

variable (db)

end Patterns

variable (db : CharData)

/-- The text with single spaces, redacted, and read along the public text that is made of it. -/
def changes (raw : Option String) (shown : String) : Marked :=
  (((redactions db).map fun r => (r.1, r.2.toList)).foldl Marked.substitute
    (.ofText (strip (collapseSpaces (raw.getD "").toList)))).follow shown.toList

variable {db}

/-- The marks are on the text that `_redact_text` has before it closes up spaces. -/
theorem text_redacted (s : List Char) :
    (((redactions db).map fun r => (r.1, r.2.toList)).foldl Marked.substitute (.ofText s)).text =
      (redactions db).foldl (fun v r => r.1.sub (fun _ => r.2.toList) v) s := by
  rw [Marked.text_foldl_substitute, List.foldl_map]
  have hplain : (Marked.ofText s).text = s := by
    unfold Marked.text Marked.chars Marked.ofText
    rw [List.map_map]
    exact List.map_id s
  rw [hplain]

end DataJuicer.PublicContract
