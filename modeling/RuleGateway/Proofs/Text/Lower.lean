import Mathlib
import RuleGateway.Proofs.Text.Ascii

/-!
# Small letters

Names are compared with their letters made small. To make them small again changes nothing, and
a reader that looks for a character that is no letter finds the same places before and after.
-/

namespace RuleGateway.Text

theorem lower_lower (text : Text) : lower (lower text) = lower text := by
  rw [lower, lower, List.map_map]
  exact List.map_congr_left fun c _ => Char.toLower_toLower_eq_toLower c

/-- A character that is no letter is not changed by making letters small. -/
theorem bne_comp_toLower {d : Char} (h : d.isLower = false) (hd : d.toLower = d) :
    (· != d) ∘ Char.toLower = (· != d) := by
  funext c
  rw [Function.comp_apply, Bool.eq_iff_iff, bne_iff_ne, bne_iff_ne]
  refine not_congr ⟨eq_of_toLower h, ?_⟩
  rintro rfl
  exact hd

end RuleGateway.Text
