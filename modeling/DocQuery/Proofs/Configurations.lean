import DocQuery.Command.Config
import DocQuery.Proofs.JsonRoundTrip

/-! # Configurations that load

What a planner has if it was loaded from a file, and which planner is loaded from a
configuration that was written as a tree. -/
namespace DocQuery

theorem File.text_bytes (s : String) : (File.bytes s.toUTF8).text = .ok s := by
  have hread : String.fromUTF8? s.toUTF8 = some s := dif_pos s.isValidUTF8
  rw [text, hread]

namespace Planner

/-- A loaded planner has passed the check for empty keys. -/
theorem check_of_load {file : File} {p : Planner} (hload : load file = .ok p) :
    p.check = .ok p := by
  unfold load at hload
  split at hload
  · cases hload
  · split at hload
    · cases hload
    · rename_i p' _
      have hp : p' = p := by
        unfold check at hload
        split at hload
        · cases hload
        · split at hload
          · cases hload
          · exact Except.ok.inj hload
      rw [hp] at hload
      exact hload

theorem identityKey_ne_empty_of_load {file : File} {p : Planner} (hload : load file = .ok p) :
    p.settings.identityKey ≠ "" := by
  have hcheck := check_of_load hload
  intro hempty
  rw [check, if_pos hempty] at hcheck
  cases hcheck

/-- An exact tree is loaded from its text. -/
theorem load_text (j : Json) {p : Planner} (hexact : j.isExact = true)
    (hdepth : j.depth ≤ Json.nestingLimit) (husable : j.isUsable = true)
    (hp : ofJson? j = some p) : load (.bytes j.text.toUTF8) = p.check := by
  have htree : ((Json.parse? j.text).filter Json.isUsable).bind ofJson? = some p := by
    rw [Json.parse?_text_of_isExact hexact hdepth, Option.filter_some_pos husable,
      Option.bind_some, hp]
  rw [load, File.text_bytes]
  dsimp only
  rw [htree]

end Planner
end DocQuery
