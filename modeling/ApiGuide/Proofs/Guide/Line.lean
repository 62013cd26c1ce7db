/-
# Answers for one line

What a guide answers at a position depends on its catalog and on one line of the
document alone; completion and signature help depend on the part of that line left of
the position.
-/

import ApiGuide.Guide
import ApiGuide.Proofs.Context.Dot
import ApiGuide.Proofs.Text.Cut

namespace ApiGuide

/-- The part of a line of a document left of a position. -/
def leftOf? (text : Text) (line character : Int) : Option Text :=
  (documentLine? text line).map (Context.before · character)

/-- A line is no longer than the document. -/
theorem length_le_of_documentLine? {text current : Text} {line : Int}
    (h : documentLine? text line = some current) : current.length ≤ text.length := by
  unfold documentLine? at h
  split at h
  · cases h
  · have hinfix := Text.infix_join (List.mem_of_getElem? h) [CodePoint.lineFeed]
    rw [Text.join_splitOn] at hinfix
    exact hinfix.length_le.trans (List.length_filter_le _ _)

namespace Guide

variable {guide : Guide} {catalog : Catalog} {text left : Text} {line character : Int}

/-- With a catalog, an answer for a line is made from that line if there is one. -/
theorem join_onLine? {α : Type} {guide : Guide} {catalog : Catalog}
    (h : guide.catalog? = some catalog) (text : Text) (line : Int)
    (f : Catalog → Text → Option α) :
    (guide.onLine? text line f).join = (documentLine? text line).bind (f catalog) := by
  rw [onLine?_some, h, Option.bind_some]
  cases documentLine? text line <;> rfl

/-- What completion offers is found from the text left of the position. -/
theorem complete_of_leftOf? (h : guide.catalog? = some catalog)
    (hleft : leftOf? text line character = some left) :
    guide.complete text line character =
      Payload.completions guide.apiName catalog (Context.dotAt left left.length) := by
  obtain ⟨current, hcurrent, rfl⟩ := Option.map_eq_some_iff.1 hleft
  have hend := Context.before_length (Context.before current character)
  unfold complete
  rw [onLine?_some, h, Option.bind_some, hcurrent, Option.map_some, Option.getD_some,
    (Context.dotAt_and_callAt_congr hend).1]

/-- What signature help shows is found from the text left of the position. -/
theorem signatureHelp?_of_leftOf? (h : guide.catalog? = some catalog)
    (hleft : leftOf? text line character = some left) :
    guide.signatureHelp? text line character =
      Payload.signatureHelp? catalog (Context.callAt left left.length) := by
  obtain ⟨current, hcurrent, rfl⟩ := Option.map_eq_some_iff.1 hleft
  have hend := Context.before_length (Context.before current character)
  unfold signatureHelp?
  rw [join_onLine? h, hcurrent, Option.bind_some, (Context.dotAt_and_callAt_congr hend).2]

end Guide
end ApiGuide
