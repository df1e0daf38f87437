import CredentialHelper.Proofs.GetReply
import CredentialHelper.Proofs.SourcesCommand

/-!
# Forgetting the user's settings

The command that removes the configuration file loads it first.  If what the file holds can be
loaded, the file is gone afterwards and the environment alone decides; if not, the command fails as
every other one does, and the file stays.
-/

namespace CredentialHelper

open CredentialHelper.Action World

/-! ## Removing a file -/

namespace FileTree

variable {tree : FileTree} {path : Text} {mode : Nat} {content : Bytes}

theorem exists_name_of_stat (h : Path.EndsInName path)
    (hstat : tree.stat path = .ok (.file mode content)) :
    ∃ parent last, tree.spot path = .ok (.name parent last false) ∧
      tree.get? (parent ++ [last]) = some (.file mode content) := by
  have husable := usable_of_stat hstat
  rw [stat] at hstat
  obtain ⟨spot, hspot, hentry⟩ := bind_eq_ok_iff.1 hstat
  have hspot' := hspot
  rw [spot_concat tree husable h.names] at hspot'
  obtain ⟨parent, hwalk, -⟩ := bind_eq_ok_iff.1 hspot'
  rw [spot_eq_ite h husable hwalk] at hspot
  split at hspot
  · cases hspot
  · next hsize =>
    cases hspot
    refine ⟨parent, _, spot_of_endsInName h husable (Nat.le_of_not_lt hsize) hwalk, ?_⟩
    dsimp only at hentry
    split at hentry
    · cases hentry
    · next hget =>
      cases hentry
      exact hget
    · next hget =>
      cases hentry
      exact hget

theorem keepsDirectories_erase {place : Place} (hne : place ≠ [])
    (h : tree.get? place = some (.file mode content)) :
    KeepsDirectories tree (tree.erase place) := by
  intro place' mode' hdirectory
  rw [get?_erase_below tree hne, if_neg, hdirectory]
  rintro rfl
  cases h.symm.trans hdirectory

end FileTree

namespace UserFile

open FileTree

/-- A file is removed, and nothing else changes. -/
theorem remove_of_stat {tree : FileTree} {path : Text} {mode : Nat} {content : Bytes}
    (h : Path.EndsInName path) (hstat : tree.stat path = .ok (.file mode content)) :
    ∃ parent last, tree.spot path = .ok (.name parent last false) ∧
      remove tree path = (tree.erase (parent ++ [last]), .ok ()) ∧
      (tree.erase (parent ++ [last])).stat path = .error .notFound := by
  obtain ⟨parent, last, hspot, hentry⟩ := exists_name_of_stat h hstat
  have hne : parent ++ [last] ≠ [] := by simp
  have hremove : tree.remove path = .ok (tree.erase (parent ++ [last])) := by
    rw [FileTree.remove, hspot]
    dsimp only
    rw [hentry]
    rfl
  have hexists : tree.pathExists path = true := by
    rw [pathExists, hstat]
    rfl
  refine ⟨parent, last, hspot, ?_, ?_⟩
  · rw [remove, if_pos hexists, hremove]
  · refine stat_of_none ((keepsDirectories_erase hne hentry).spot hspot) ?_
    rw [get?_erase_below tree hne, if_pos rfl]

end UserFile

/-! ## Settings from a file and without it -/

namespace Settings

variable {w : World} {path : Text} {mode : Nat} {content : Bytes} {given : Members}

/-- The settings of a run that finds a content in the configuration file and is given members by the
environment. -/
def ofContent (given : Members) (content : Bytes) : Except Cause Settings := do
  let text ← (Utf8.decode content).mapError .decoding
  let filed ← membersOfText (unifyLines text)
  (ofMembers (given ++ recognized filed)).mapError .invalid

theorem load_eq_ofContent (hfile : userFile w = .ok path)
    (hpath : Path.expandKnown? w.homes path = some (Path.normalize path))
    (hstat : w.files.stat (Path.normalize path) = .ok (.file mode content))
    (hgiven : ofEnvironment w.environment = .ok given) :
    load [] w = ofContent given content := by
  cases hdecode : Utf8.decode content with
  | error e =>
    have hread : w.files.readText (Path.normalize path) = .error (.decoding e) := by
      rw [FileTree.readText, FileName.encode_eq_ok (FileTree.usable_of_stat hstat).allowed,
        FileTree.read_of_stat hstat]
      simp only [hdecode]
    have hfiled : ofFile w.homes w.files path = .error (.decoding e) := by
      rw [ofFile, hpath]
      dsimp only
      rw [hstat]
      dsimp only
      rw [hread]
      rfl
    rw [load, hfile, ofContent, hdecode]
    show (ofFile w.homes w.files path >>= _) = _
    rw [hfiled]
    rfl
  | ok text =>
    have htext : fileText? w = some (unifyLines text) := by
      rw [fileText?, hfile]
      dsimp only
      rw [hpath]
      dsimp only
      rw [hstat]
      dsimp only
      rw [FileTree.readText_of_stat hstat hdecode]
      rfl
    rw [load_eq htext, hgiven, ofContent, hdecode]
    rfl

theorem load_of_notFound (hfile : userFile w = .ok path)
    (hpath : Path.expandKnown? w.homes path = some (Path.normalize path))
    (hstat : w.files.stat (Path.normalize path) = .error .notFound)
    (hgiven : ofEnvironment w.environment = .ok given) :
    load [] w = (ofMembers given).mapError .invalid := by
  have htext : fileText? w = some [] := by
    rw [fileText?, hfile]
    dsimp only
    rw [hpath]
    dsimp only
    rw [hstat]
    rfl
  have hnone : membersOfText [] = .ok [] := rfl
  rw [load_eq htext, hnone, hgiven]
  show (ofMembers (given ++ [])).mapError Cause.invalid = _
  rw [List.append_nil]

/-- What is wrong with a content is reported, or it is a failure that escapes. -/
theorem cause_of_ofContent {c : Cause} (h : ofContent given content = .error c) :
    Reported c ∨ Escaping c ∨ ∃ e, c = .decoding e := by
  rw [ofContent] at h
  rcases cases_of_bind_eq_error h with hdecode | ⟨text, -, h⟩
  · rw [Except.mapError.eq_def] at hdecode
    split at hdecode <;> cases hdecode
    exact .inr (.inr ⟨_, rfl⟩)
  · rcases cases_of_bind_eq_error h with hfiled | ⟨filed, -, h⟩
    · rcases membersOfText_cases (unifyLines text) with ⟨members, hok, -⟩ | ⟨c', herror, hc, -⟩ |
        ⟨c', herror, hc, -⟩
      · rw [hok] at hfiled
        cases hfiled
      · cases herror.symm.trans hfiled
        exact .inl hc
      · cases herror.symm.trans hfiled
        exact .inr (.inl hc)
    · rw [Except.mapError.eq_def] at h
      split at h <;> cases h
      exact .inl (.invalid _)

end Settings

/-! ## The command -/

namespace CommandLine

def unsetAll : List Text := [Text.ofString "config", Text.ofString "--unset-all"]

theorem readVerb_unsetAll : readVerb unsetAll = .ok (.config, [Text.ofString "--unset-all"]) := rfl

theorem readRequest_unsetAll : readRequest .config [Text.ofString "--unset-all"] = .ok .unsetAll :=
  rfl

section

variable {w : World} {path : Text} {c : Cause}

theorem runOn_answerUnsetAll {files : FileTree} (hfile : Settings.userFile w = .ok path)
    (hremove : UserFile.remove w.files path = (files, .ok ())) :
    answerUnsetAll.runOn w =
      (.ok 0, Journaled.note (.status ("Removed " ++ path ++ "\n")) { w with files }) := by
  have huser : userFile.runOn w = (.ok path, w) := by
    rw [userFile, runOn_bind, runOn_get]
    dsimp only
    rw [hfile]
    rfl
  have hfiles : (World.onFiles fun files => UserFile.remove files path).runOn w =
      (.ok (), { w with files }) := by
    rw [onFiles, runOn_ofFunction, hremove]
  rw [answerUnsetAll, runOn_bind, huser]
  dsimp only
  rw [runOn_bind, hfiles]
  rfl

theorem settings_of_not_reported (h : Settings.load [] w = .error c) (hc : ¬Settings.Reported c) :
    settings w = .error (.foreign c) := by
  rw [settings, h, Except.mapError]
  dsimp only
  split
  · next r => exact absurd (.invalid r) hc
  · next e => exact absurd (.malformed e) hc
  · rfl

/-- Settings that cannot be loaded end the run before it does anything. -/
theorem run_unloaded {arguments rest : List Text} {verb : Verb}
    (hverb : readVerb arguments = .ok (verb, rest)) (h : Settings.load [] w = .error c)
    (hc : Settings.Reported c ∨ Settings.Escaping c ∨ ∃ e, c = .decoding e) (input : Bytes) :
    (∃ journal, (run arguments input w).2 = { w with journal }) ∧
      (Settings.Reported c → (run arguments input w).1.ending = .status 1 ∧
        (run arguments input w).1.output = (invalid c).message ++ Text.ofString "\n") ∧
      (¬Settings.Reported c → (run arguments input w).1.ending = .crash (.foreign c) ∧
        (run arguments input w).1.output = []) := by
  by_cases hreported : Settings.Reported c
  · have hrun := runOn_ending_of_ok (runOn_reporting_invalid hreported { w with journal := [] })
    obtain ⟨hended, hshown, hleft⟩ :=
      run_of_plan (plan_of_error hverb (settings_of_reported h hreported) input) hrun
    exact ⟨⟨_, hleft⟩, fun _ => ⟨hended, hshown.trans (List.append_nil _)⟩,
      fun hnot => absurd hreported hnot⟩
  · have hother : ∀ e, c ≠ .collaborator e := by
      rintro e rfl
      rcases hc with hc | hc | ⟨e, hc⟩
      · exact hreported hc
      · cases hc
      · cases hc
    have hfails : (reporting (Action.fail (.foreign c))).runOn { w with journal := [] } =
        (.error (.foreign c), { w with journal := [] }) := runOn_reporting_of_foreign rfl
    obtain ⟨hended, hshown, hleft⟩ :=
      run_of_plan (plan_of_error hverb (settings_of_not_reported h hreported) input)
        (runOn_ending_of_crash hfails hother)
    exact ⟨⟨_, hleft⟩, fun hyes => absurd hyes hreported, fun _ => ⟨hended, hshown⟩⟩

end

/-- Where the configuration file is a file and the environment alone gives settings, the command
that removes it does so if the settings can be loaded with the file: then the file is gone, nothing
else is changed, and what is loaded next is what the environment gives.  Otherwise the command fails
as every other one does, and everything stays as it was. -/
theorem run_unsetAll {w : World} {path : Text} {mode : Nat} {content : Bytes} {given : Members}
    {alone : Settings} (hfile : Settings.userFile w = .ok path) (hname : Path.EndsInName path)
    (hpath : Path.expandKnown? w.homes path = some (Path.normalize path))
    (hstat : w.files.stat path = .ok (.file mode content))
    (hgiven : Settings.ofEnvironment w.environment = .ok given)
    (halone : Settings.ofMembers given = .ok alone) (input : Bytes) :
    (∃ s place, Settings.ofContent given content = .ok s ∧
      (run unsetAll input w).1.ending = .status 0 ∧ (run unsetAll input w).1.output = [] ∧
      (run unsetAll input w).2 = { w with
        files := w.files.erase place
        journal := [.status ("Removed " ++ path ++ "\n")] } ∧
      (w.files.erase place).stat path = .error .notFound ∧
      Settings.load [] (run unsetAll input w).2 = .ok alone) ∨
    ∃ c, Settings.ofContent given content = .error c ∧
      (∃ journal, (run unsetAll input w).2 = { w with journal }) ∧
      (Settings.Reported c → (run unsetAll input w).1.ending = .status 1 ∧
        (run unsetAll input w).1.output = (invalid c).message ++ Text.ofString "\n") ∧
      (¬Settings.Reported c → (run unsetAll input w).1.ending = .crash (.foreign c) ∧
        (run unsetAll input w).1.output = []) := by
  obtain ⟨parent, last, hspot, hremove, hgone⟩ := UserFile.remove_of_stat hname hstat
  have hload := Settings.load_eq_ofContent hfile hpath
    ((FileTree.stat_normalize hspot w.files).trans hstat) hgiven
  cases hcontent : Settings.ofContent given content with
  | error c =>
    rw [hcontent] at hload
    exact .inr ⟨c, rfl,
      run_unloaded readVerb_unsetAll hload (Settings.cause_of_ofContent hcontent) input⟩
  | ok s =>
    rw [hcontent] at hload
    have hplan := plan_of_load readVerb_unsetAll hload input
    rw [runVerb, readRequest_unsetAll] at hplan
    have hrun := runOn_answerUnsetAll (w := { w with journal := [] }) hfile hremove
    obtain ⟨hended, hshown, hleft⟩ := run_of_plan hplan (runOn_ending_of_ok hrun)
    have hgone' := (FileTree.stat_normalize hspot (w.files.erase (parent ++ [last]))).trans hgone
    have hnext : Settings.load [] (run unsetAll input w).2 =
        (Settings.ofMembers given).mapError .invalid := by
      rw [hleft]
      exact Settings.load_of_notFound hfile hpath hgone' hgiven
    refine .inl ⟨s, parent ++ [last], rfl, hended, hshown, hleft, hgone, hnext.trans ?_⟩
    rw [halone]
    rfl

def configuredWorld (content : Bytes) : World :=
  { World.bare with
    environment := [(Settings.fileVariable, "settings.json")]
    files := FileTree.empty.put [Text.ofString "settings.json"] (.file 0o644 content) }

def changedSettings : Bytes :=
  Utf8.encode "\x7b\"token_sources\": [\"gcloud\"], \"http_timeout_seconds\": 5\x7d"

def changedWorld : World :=
  { configuredWorld changedSettings with
    environment := [(Settings.fileVariable, "settings.json"), ("GCR_HELPER_LOG_LEVEL", "ERROR")] }

/-- The setting of the environment is left when those of the file are removed. -/
theorem run_unsetAll_changedWorld :
    changedWorld.files.stat "settings.json" = .ok (.file 0o644 changedSettings) ∧
      (Settings.load [] changedWorld).toOption =
        some { tokenSources := ["gcloud"], httpTimeout := 5, logLevel := .error } ∧
      (run unsetAll [] changedWorld).1.ending = .status 0 ∧
      (∃ place, (run unsetAll [] changedWorld).2.files = changedWorld.files.erase place ∧
        (changedWorld.files.erase place).stat "settings.json" = .error .notFound) ∧
      Settings.load [] (run unsetAll [] changedWorld).2 = .ok { logLevel := .error } := by
  have hstat : changedWorld.files.stat "settings.json" = .ok (.file 0o644 changedSettings) := by
    decide +kernel
  have hpath : Path.expandKnown? changedWorld.homes "settings.json" =
      some (Path.normalize "settings.json") := by decide +kernel
  have hgiven : Settings.ofEnvironment changedWorld.environment =
      .ok [(Text.ofString "log_level", .string "ERROR")] := rfl
  have halone : Settings.ofMembers [(Text.ofString "log_level", .string "ERROR")] =
      .ok { logLevel := .error } := rfl
  have hloads : (Settings.ofContent [(Text.ofString "log_level", .string "ERROR")]
      changedSettings).isOk = true := by decide +kernel
  rcases run_unsetAll rfl ⟨by decide, by decide, by decide⟩ hpath hstat hgiven halone [] with
    ⟨s, place, -, hended, -, hleft, hgone, hnext⟩ | ⟨c, hc, -⟩
  · exact ⟨hstat, by decide +kernel, hended, ⟨place, by rw [hleft], hgone⟩, hnext⟩
  · rw [hc] at hloads
    cases hloads

def brokenWorld : World := configuredWorld (Utf8.encode "\x7boops")

/-- The command fails, and the file stays. -/
theorem run_unsetAll_brokenWorld :
    (Settings.ofMembers []).isOk = true ∧
      (run unsetAll [] brokenWorld).1.ending.code = 1 ∧
      (run unsetAll [] brokenWorld).2.files = brokenWorld.files := by
  decide +kernel

end CommandLine

end CredentialHelper
