import CredentialHelper.Proofs.CommandFiles
import CredentialHelper.Proofs.KnownSources
import CredentialHelper.Proofs.SettingsFile

/-!
# Setting the token sources

The command that sets the token sources accepts only known ones, puts them into the configuration
file beside what stood there, and leaves everything as it is if one of them is not known
(`CommandLine.run_configure`).  A later run loads the same sources, with two exceptions: a member in
front of them that bears their name in other letters is found first, and a path that still begins
with a tilde is expanded once more.
-/

namespace CredentialHelper

open CredentialHelper.Action World

/-! ## The file -/

namespace UserFile

variable {tree tree' : FileTree} {path : Text} {members : Members} {sources : List Text}

theorem ok_of_mapM {ε α β : Type} {f : α → Except ε β} {l : List α} {ys : List β}
    (h : l.mapM f = .ok ys) : ∀ x ∈ l, ∃ y, f x = .ok y := by
  induction l generalizing ys with
  | nil => nofun
  | cons x l ih =>
    rw [List.mapM_cons] at h
    obtain ⟨y, hy, h⟩ := FileTree.bind_eq_ok_iff.1 h
    obtain ⟨rest, hrest, -⟩ := FileTree.bind_eq_ok_iff.1 h
    intro x' hx'
    rcases List.mem_cons.1 hx' with rfl | hx'
    · exact ⟨y, hy⟩
    · exact ih hrest x' hx'

/-- Only identifiers of known sources are accepted. -/
theorem known_of_checked {checked : List Text} (h : UserFile.checked sources = .ok checked) :
    ∀ source ∈ sources, (SourceKind.known.lookup source).isSome := by
  rw [UserFile.checked] at h
  cases hmapped : sources.mapM SourceKind.parse with
  | error e =>
    rw [hmapped] at h
    cases h
  | ok kinds =>
    intro source hsource
    obtain ⟨kind, hkind⟩ := ok_of_mapM hmapped source hsource
    rw [SourceKind.parse] at hkind
    split at hkind
    · next hlookup => rw [hlookup, Option.isSome_some]
    · cases hkind

theorem joined_of_known {source : Text} (h : (SourceKind.known.lookup source).isSome) :
    Json.Joined source := by
  obtain ⟨kind, hkind⟩ := SourceKind.exists_parse h
  have hmem := SourceKind.mem_known_of_parse hkind
  simp only [SourceKind.known, List.mem_cons, Prod.mk.injEq, List.not_mem_nil, or_false] at hmem
  rcases hmem with ⟨rfl, -⟩ | ⟨rfl, -⟩ | ⟨rfl, -⟩ | ⟨rfl, -⟩ <;> exact Json.joined_ofString _

theorem readable_of_read (h : read tree path = .ok (.object members)) :
    Json.Readable 0 (.object members) := by
  rcases read_eq_ok h with hjson | ⟨-, rfl⟩
  · exact FileTree.readable_of_readJson hjson
  · exact Json.readable_nil

theorem readable_withSources (h : read tree path = .ok (.object members))
    (hknown : ∀ source ∈ sources, (SourceKind.known.lookup source).isSome) :
    Json.Readable 0 (.object (members.insert sourcesKey (.array (sources.map .string)))) := by
  refine (readable_of_read h).insert (Json.joined_ofString _) (.array (by decide) fun v hv => ?_)
  obtain ⟨source, hsource, rfl⟩ := List.mem_map.1 hv
  exact .string (joined_of_known (hknown source hsource))

theorem setSources_eq_ok (h : setSources tree path sources = (tree', .ok ())) :
    ∃ (members : Members) (made : FileTree), read tree path = .ok (.object members) ∧
      FileTree.write made path 0o666 (FileTree.jsonBytes
        (.object (members.insert sourcesKey (.array (sources.map .string))))) = .ok tree' := by
  rw [setSources] at h
  cases hread : read tree path with
  | error f =>
    rw [hread] at h
    cases h
  | ok v =>
    cases v with
    | object members =>
      rw [hread] at h
      change write tree path (.object
        (Members.insert sourcesKey (.array (sources.map .string)) members)) = (tree', .ok ()) at h
      rw [write] at h
      split at h
      · cases h
      · next made _ =>
        split at h
        · cases h
        · next hwrite =>
          cases h
          exact ⟨members, made, rfl, hwrite⟩
    | _ =>
      rw [hread] at h
      cases h

/-- After the token sources were set, the file holds them beside what stood there before. -/
theorem read_of_setSources (h : setSources tree path sources = (tree', .ok ()))
    (hknown : ∀ source ∈ sources, (SourceKind.known.lookup source).isSome) :
    ∃ (members : Members) (parent : Place) (last : Text), read tree path = .ok (.object members) ∧
      tree'.readJson path = .ok (.object (Settings.written sources members)) ∧
      tree'.spot path = .ok (.name parent last false) := by
  obtain ⟨members, made, hread, hwrite⟩ := setSources_eq_ok h
  obtain ⟨parent, last, mode, hspot, hentry⟩ := FileTree.entry_of_write hwrite
  have hstat := FileTree.stat_of_name hspot hentry
  have hsources : Json.FloatFree (.array (sources.map .string)) := by
    refine .array fun v hv => ?_
    obtain ⟨source, -, rfl⟩ := List.mem_map.1 hv
    exact .string source
  refine ⟨members, parent, last, hread, ?_, hspot⟩
  rw [FileTree.readJson_jsonBytes (FileName.encode_eq_ok (FileTree.usable_of_stat hstat).allowed)
    (FileTree.read_of_stat hstat) (readable_withSources hread hknown), Json.reread,
    Json.rereadMembers_insert, hsources.reread, Settings.written]

end UserFile

/-! ## The command -/

namespace CommandLine

def configure (text : Text) : List Text :=
  [Text.ofString "config", Text.ofString "--token-source", text]

theorem readVerb_configure (text : Text) :
    readVerb (configure text) = .ok (.config, [Text.ofString "--token-source", text]) := rfl

theorem readRequest_configure (text : Text) :
    readRequest .config [Text.ofString "--token-source", text] = .ok (.setSources text) := rfl

def Ending.code : Ending → Nat
  | .status n => n
  | .crash _ => 1

theorem run_cases (arguments : List Text) (input : Bytes) (w : World) :
    (∃ n, (plan arguments input w).2.runOn { w with journal := [] } =
        (.ok n, (run arguments input w).2) ∧ (run arguments input w).1.ending.code = n) ∨
      (run arguments input w).1.ending.code = 1 := by
  rcases hplan : plan arguments input w with ⟨level, action⟩
  rcases hrun : action.runOn { w with journal := [] } with ⟨f | n, t⟩
  · have hended : ∃ ended u, (ending action).runOn { w with journal := [] } = (.ok ended, u) ∧
        ended.code = 1 := by
      rw [ending, runOn_bind, runOn_attempt, hrun]
      dsimp only
      split
      · exact ⟨_, _, rfl, rfl⟩
      · split
        · exact ⟨_, _, rfl, rfl⟩
        · exact ⟨_, _, rfl, rfl⟩
    obtain ⟨ended, u, hended, hcode⟩ := hended
    rw [(run_of_plan hplan hended).1]
    exact .inr hcode
  · obtain ⟨hended, -, hleft⟩ := run_of_plan hplan (runOn_ending_of_ok hrun)
    exact .inl ⟨n, by rw [hleft], by rw [hended, Ending.code]⟩

theorem reporting_le_one {a : Action World Unit} {w t : World} {n : Nat}
    (h : (reporting a).runOn w = (.ok n, t)) : n ≤ 1 := by
  rw [reporting] at h
  obtain ⟨r, u, -, h⟩ := exists_of_bind_eq_ok h
  split at h
  · cases h
    exact Nat.zero_le 1
  · obtain ⟨_, v, -, h⟩ := exists_of_bind_eq_ok h
    cases h
    exact Nat.le_refl 1
  · cases h

section

variable (text : Text) (input : Bytes) (w : World)

theorem plan_configure :
    (∃ s, Settings.load [] w = .ok s ∧
        (plan (configure text) input w).2 = answerSetSources text) ∨
      ∃ f, (plan (configure text) input w).2 = reporting (Action.fail f) := by
  cases hload : Settings.load [] w with
  | ok s =>
    refine .inl ⟨s, rfl, ?_⟩
    rw [plan_of_load (readVerb_configure text) hload, runVerb, readRequest_configure]
    rfl
  | error c =>
    have hsettings : ∃ f, settings w = .error f := by
      rw [settings, hload]
      exact ⟨_, rfl⟩
    obtain ⟨f, hf⟩ := hsettings
    exact .inr ⟨f, by rw [plan_of_error (readVerb_configure text) hf]⟩

theorem code_configure : (run (configure text) input w).1.ending.code ≤ 1 := by
  rcases run_cases (configure text) input w with ⟨n, hrun, hcode⟩ | hcode
  · rw [hcode]
    rcases plan_configure text input w with ⟨s, -, hplan⟩ | ⟨f, hplan⟩
    · rw [hplan, answerSetSources] at hrun
      obtain ⟨path, u, -, hrun⟩ := exists_of_bind_eq_ok hrun
      exact reporting_le_one hrun
    · rw [hplan] at hrun
      exact reporting_le_one hrun
  · exact hcode.le

end

theorem answerSetSources_eq_zero {text : Text} {w t : World}
    (h : (answerSetSources text).runOn w = (.ok 0, t)) :
    ∃ (path : Text) (files : FileTree) (line : Line), Settings.userFile w = .ok path ∧
      UserFile.checked (UserFile.identifiers text) = .ok (UserFile.identifiers text) ∧
      UserFile.setSources w.files path (UserFile.identifiers text) = (files, .ok ()) ∧
      t = Journaled.note line { w with files } := by
  rw [answerSetSources] at h
  obtain ⟨path, u, hpath, h⟩ := exists_of_bind_eq_ok h
  have hfound : ((Settings.userFile w).mapError fun e => Failure.foreign (.fileName e),
      w) = (.ok path, u) := hpath
  obtain ⟨hfile, rfl⟩ := Prod.mk.inj hfound
  obtain ⟨sources, v, hsources, h⟩ := exists_of_bind_eq_ok (reporting_eq_zero h)
  rw [runOn_ofExcept] at hsources
  obtain ⟨hchecked, rfl⟩ := Prod.mk.inj hsources
  replace hchecked := Settings.eq_ok_of_mapError hchecked
  obtain rfl := UserFile.eq_of_checked hchecked
  obtain ⟨_, x, hset, h⟩ := exists_of_bind_eq_ok h
  rcases hwritten : UserFile.setSources w.files path (UserFile.identifiers text) with ⟨files, r⟩
  rw [onFiles, runOn_ofFunction, hwritten] at hset
  cases hset
  cases h
  exact ⟨path, files, _, Settings.eq_ok_of_mapError hfile, hchecked, hwritten, rfl⟩

section

variable {text : Text} {input : Bytes} {w : World}

/-- What is known of a command that succeeded. -/
theorem exists_of_configure (h : (run (configure text) input w).1.ending.code = 0) :
    ∃ (s : Settings) (path : Text), Settings.load [] w = .ok s ∧
      Settings.userFile w = .ok path ∧
      (∀ source ∈ UserFile.identifiers text, (SourceKind.known.lookup source).isSome) ∧
      UserFile.setSources w.files path (UserFile.identifiers text) =
        ((run (configure text) input w).2.files, .ok ()) ∧
      (run (configure text) input w).2.environment = w.environment ∧
      (run (configure text) input w).2.homes = w.homes := by
  rcases run_cases (configure text) input w with ⟨n, hrun, hcode⟩ | hcode
  · rw [hcode] at h
    subst h
    rcases plan_configure text input w with ⟨s, hload, hplan⟩ | ⟨f, hplan⟩
    · rw [hplan] at hrun
      obtain ⟨path, files, line, hfile, hchecked, hset, hleft⟩ := answerSetSources_eq_zero hrun
      rw [hleft]
      exact ⟨s, path, hload, hfile, UserFile.known_of_checked hchecked, hset, rfl, rfl⟩
    · rw [hplan] at hrun
      cases reporting_eq_zero hrun
  · rw [h] at hcode
    cases hcode

/-- An unknown source ends the command with status 1, and the files stay as they are. -/
theorem run_configure_of_unknown {source : Text} (hmem : source ∈ UserFile.identifiers text)
    (hunknown : SourceKind.known.lookup source = none) :
    (run (configure text) input w).1.ending.code = 1 ∧
      (run (configure text) input w).2.files = w.files := by
  have hrefused : ∃ e, UserFile.checked (UserFile.identifiers text) = .error e := by
    cases hchecked : UserFile.checked (UserFile.identifiers text) with
    | error e => exact ⟨e, rfl⟩
    | ok checked =>
      have hknown := UserFile.known_of_checked hchecked source hmem
      rw [hunknown] at hknown
      cases hknown
  obtain ⟨e, hchecked⟩ := hrefused
  constructor
  · have hle := code_configure text input w
    have hne : (run (configure text) input w).1.ending.code ≠ 0 := by
      intro hcode
      obtain ⟨-, -, -, -, hknown, -⟩ := exists_of_configure hcode
      have hsome := hknown source hmem
      rw [hunknown] at hsome
      cases hsome
    omega
  · refine (absorbs_idles.run ?_).files
    rcases plan_configure text input w with ⟨s, -, hplan⟩ | ⟨f, hplan⟩
    · rw [hplan]
      have huser : Within Idles userFile := fun v => .refl v
      refine huser.bind fun path v => absorbs_idles.reporting ?_
      rw [hchecked]
      exact .refl v
    · rw [hplan]
      exact fun v => absorbs_idles.reporting (.refl v)

/-- A command that succeeds has put the sources beside the other members of the file, whose values
are kept up to floating-point numbers.  As long as the file holds that text, the settings are loaded
as before with these sources, unless the environment has sources of its own, the path is expanded
once more, or a member with the same name in other letters stands in front: then the settings stay
as they were.  With these sources no request fails over an identifier.  An unknown source ends the
command with status 1 and leaves all files as they were. -/
theorem run_configure (text : Text) (input : Bytes) (w : World) :
    ((run (configure text) input w).1.ending.code = 0 →
      ∃ (s : Settings) (path : Text) (members : Members), Settings.load [] w = .ok s ∧
        Settings.userFile w = .ok path ∧ UserFile.read w.files path = .ok (.object members) ∧
        (run (configure text) input w).2.files.readJson path =
          .ok (.object (Settings.written (UserFile.identifiers text) members)) ∧
        (∀ v : World, v.environment = w.environment →
          Settings.fileText? v = Settings.fileText? (run (configure text) input w).2 →
          Settings.text? w.environment "token_sources" = none →
          Path.expandKnown? w.homes path = some (Path.normalize path) →
          (∀ p ∈ Settings.recognized members, Json.FloatFree p.2) →
          (Settings.SourcesFirst members →
              Settings.load [] v = .ok { s with tokenSources := UserFile.identifiers text }) ∧
            (¬Settings.SourcesFirst members → Settings.load [] v = .ok s)) ∧
        ∀ (store : CredentialStore) (registry : Text) (u : World), u.AllForeign →
          ∀ e, (((Helper.ofSettings { s with tokenSources := UserFile.identifiers text }
            store).get registry).runOn u).1 = .error (.helper e) →
          ∀ identifier, .unknownSource identifier ∉ e.kinds) ∧
    ((∃ source ∈ UserFile.identifiers text, SourceKind.known.lookup source = none) →
      (run (configure text) input w).1.ending.code = 1 ∧
        (run (configure text) input w).2.files = w.files) := by
  constructor
  · intro hcode
    obtain ⟨s, path, hload, hfile, hknown, hset, henvironment, hhomes⟩ :=
      exists_of_configure hcode
    obtain ⟨members, parent, last, hread, hjson, hspot⟩ := UserFile.read_of_setSources hset hknown
    refine ⟨s, path, members, hload, hfile, hread, hjson, ?_, ?_⟩
    · intro v hv hsame hnone hpath hfree
      have hfile' : Settings.userFile (run (configure text) input w).2 = .ok path :=
        (Settings.userFile_congr henvironment hhomes).trans hfile
      have hread' : UserFile.read (run (configure text) input w).2.files path =
          .ok (.object (Settings.written (UserFile.identifiers text) members)) := by
        rw [UserFile.read, hjson]
      obtain ⟨before, hbefore, hmembers⟩ :=
        Settings.fileText?_of_read hfile hpath hspot hread
      obtain ⟨after, hafter, hwritten⟩ :=
        Settings.fileText?_of_read hfile' (by rw [hhomes]; exact hpath) hspot hread'
      exact Settings.load_of_written hbefore hmembers (hsame.trans hafter) hwritten hv hnone hfree
        hload
    · intro store registry u hu e he
      have hends := Helper.ends_get (s := { s with tokenSources := UserFile.identifiers text })
        store registry hknown
      exact HelperError.unknownSource_not_mem ((hends u hu).2.2 _ he)
  · rintro ⟨source, hmem, hunknown⟩
    exact run_configure_of_unknown hmem hunknown

end

def newFileWorld : World :=
  { World.bare with environment := [(Settings.fileVariable, "settings.json")] }

theorem run_configure_newFileWorld :
    (run (configure "env, store") [] newFileWorld).1.ending.code = 0 ∧
      ∃ s, Settings.load [] newFileWorld = .ok s ∧
        Settings.load [] (run (configure "env, store") [] newFileWorld).2 =
          .ok { s with tokenSources := ["env", "store"] } := by
  have hcode : (run (configure "env, store") [] newFileWorld).1.ending.code = 0 := by
    decide +kernel
  obtain ⟨-, -, -, -, -, -, hkept, -⟩ := exists_of_configure hcode
  obtain ⟨s, path, members, hload, hfile, hread, -, hlater, -⟩ :=
    (run_configure "env, store" [] newFileWorld).1 hcode
  have hpath : Settings.userFile newFileWorld = .ok (Text.ofString "settings.json") := by rfl
  cases hpath.symm.trans hfile
  have hnone : (newFileWorld.files.stat "settings.json").isOk = false := by decide +kernel
  have hmembers : members = [] := by
    rcases UserFile.read_eq_ok hread with hjson | ⟨-, hmembers⟩
    · obtain ⟨t, ht, -⟩ := FileTree.readJson_eq_ok_iff.1 hjson
      obtain ⟨mode, content, text, hstat, -⟩ := FileTree.readText_eq_ok ht
      rw [hstat] at hnone
      cases hnone
    · exact hmembers
  subst hmembers
  refine ⟨hcode, s, hload, ?_⟩
  exact (hlater _ hkept rfl (by decide +kernel) (by decide +kernel) nofun).1 nofun

/-- A world whose configuration file names the token sources in capital letters. -/
def capitalWorld : World :=
  { newFileWorld with
    files := FileTree.empty.put [Text.ofString "settings.json"] (.file 0o644 (FileTree.jsonBytes
      (Json.ofMembers [("TOKEN_SOURCES", .array [Json.ofString "bogus"])]))) }

def resetWorld : World := (run (configure "gcloud") [] capitalWorld).2

/-- The command succeeds, and the sources that it sets are not found afterwards. -/
theorem run_configure_capitalWorld :
    (run (configure "gcloud") [] capitalWorld).1.ending.code = 0 ∧
      (Settings.load [] resetWorld).toOption.map Settings.tokenSources =
        some [Text.ofString "bogus"] ∧
      (run ["get"] (Utf8.encode "gcr.io") resetWorld).1.output =
        Text.ofString ("docker-credential-gcr/helper: could not retrieve GCR's access token: " ++
          "unknown token source: bogus\n") := by
  decide +kernel

end CommandLine

end CredentialHelper
