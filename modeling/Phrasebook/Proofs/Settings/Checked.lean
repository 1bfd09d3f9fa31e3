import Phrasebook.Proofs.Steps
import Phrasebook.Program.Basic

/-!
# Checked settings

Settings that come out of loading have passed the check, whether they were read from a file or
are the defaults, and whatever the environment says. Settings that have passed it still do when
they are given templates of their own in place of the files.
-/

namespace Phrasebook.Settings

/-- Settings pass the check when they have no problems. -/
theorem check_eq_ok_iff {settings : Settings} :
    settings.check = .ok () ↔ settings.problems = [] := by
  rw [check]
  cases settings.problems <;> simp

/-- Settings that are complete have passed the check. -/
theorem check_of_complete {environment : Environment} {settings completed : Settings}
    (complete : settings.complete environment = .ok completed) : completed.check = .ok () := by
  obtain ⟨_, -, checked⟩ := Steps.bind_eq_ok_iff.1 complete
  obtain ⟨_, passes, same⟩ := Steps.bind_eq_ok_iff.1 checked
  cases same
  exact passes

/-- Settings of a file have passed the check. -/
theorem check_of_loadFile {access : FileAccess} {environment : Environment} {path : String}
    {settings : Settings} (loaded : loadFile access environment path = .ok settings) :
    settings.check = .ok () := by
  obtain ⟨_, -, parsed⟩ := Steps.bind_eq_ok_iff.1 loaded
  obtain ⟨_, -, complete⟩ := Steps.bind_eq_ok_iff.1 parsed
  exact check_of_complete complete

/-- Settings that are looked for have passed the check. -/
theorem check_of_load {access : FileAccess} {environment : Environment} {settings : Settings}
    (loaded : load access environment = .ok settings) : settings.check = .ok () := by
  rw [load] at loaded
  split at loaded
  · exact check_of_loadFile loaded
  · exact check_of_complete loaded

/-- Checked settings can be given templates of their own. -/
theorem check_inline {settings : Settings} (checked : settings.check = .ok ()) (catalog : Catalog) :
    { settings with languages := { settings.languages with store := .inline catalog } }.check =
      .ok () := by
  rw [check_eq_ok_iff] at checked ⊢
  simp only [problems, LanguageSettings.problems, List.append_eq_nil_iff] at checked ⊢
  exact ⟨⟨checked.1.1, rfl⟩, checked.2⟩

end Phrasebook.Settings
