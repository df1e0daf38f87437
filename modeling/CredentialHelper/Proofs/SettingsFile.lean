import CredentialHelper.Proofs.Members
import CredentialHelper.Proofs.NormalPath
import CredentialHelper.Proofs.SettingsFailure
import CredentialHelper.Settings.UserFile

/-!
# Settings from the user's configuration file

What the helper finds in its configuration file when it changes it is also what the settings are
loaded from (`Settings.fileText?_of_read`).  When the token sources are set in an object, the
settings that are loaded from it change in this one field, provided that no member in front of it
bears the same name in other letters (`Settings.load_of_written`).
-/

namespace CredentialHelper

/-! ## Texts of documents -/

theorem Blank.isBlankSymbol_of_strip {t : Text} (h : strip t = []) :
    ∀ s ∈ t, isBlankSymbol s = true := by
  rw [strip, trimEnd, List.reverse_eq_nil_iff, trimStart, List.dropWhile_eq_nil_iff] at h
  intro s hs
  rw [← List.takeWhile_append_dropWhile (p := isBlankSymbol) (l := t)] at hs
  rcases List.mem_append.1 hs with hs | hs
  · exact List.mem_takeWhile_imp hs
  · exact h s (List.mem_reverse.2 hs)

namespace Json

theorem isBlank_of_startsValue {c : Char} (h : startsValue c = true) : Blank.isBlank c = false := by
  have hdigits : ∀ n < 58, 48 ≤ n → blanks.contains n = false := by decide
  have hsigns : ("-ntfNI".toList ++ "\"[\x7b".toList).all (fun c => !Blank.isBlank c) = true := by
    decide
  have hsign (hmem : c ∈ "-ntfNI".toList ++ "\"[\x7b".toList) : Blank.isBlank c = false :=
    (Bool.not_eq_true' _).mp (List.all_eq_true.1 hsigns c hmem)
  rw [startsValue, startsScalar, Bool.or_eq_true, Bool.or_eq_true, List.contains_iff_mem,
    List.contains_iff_mem] at h
  rcases h with (hdigit | hmem) | hmem
  · simp only [Char.isDigit, Bool.and_eq_true, decide_eq_true_eq] at hdigit
    have hlow : 48 ≤ c.toNat := hdigit.1
    have hhigh : c.toNat ≤ 57 := hdigit.2
    exact hdigits c.toNat (by omega) hlow
  · exact hsign (List.mem_append_left _ hmem)
  · exact hsign (List.mem_append_right _ hmem)

theorem exists_of_parse {t : Text} {v : Json} (h : parse t = .ok v) :
    ∃ c, .char c ∈ t ∧ startsValue c = true := by
  rw [parse] at h
  split at h
  · next hdocument =>
    rw [Reader.document.eq_def] at hdocument
    split at hdocument
    · cases hdocument
    · split at hdocument
      · cases hdocument
      · next hvalue =>
        obtain ⟨c, rest, hstart, hc⟩ := start_of_value hvalue
        exact ⟨c, (suffix_skipSpace t).subset (hstart ▸ List.mem_cons_self), hc⟩
  · cases h
  · cases h
  · cases h

theorem strip_of_parse {t : Text} {v : Json} (h : parse t = .ok v) :
    (Blank.strip t).isEmpty = false := by
  obtain ⟨c, hmem, hc⟩ := exists_of_parse h
  rw [List.isEmpty_eq_false_iff]
  intro hnil
  have hblank : Blank.isBlank c = true := Blank.isBlankSymbol_of_strip hnil _ hmem
  rw [isBlank_of_startsValue hc] at hblank
  cases hblank

end Json

/-! ## The text of the file -/

namespace FileTree

variable {tree : FileTree} {path t : Text}

theorem readText_of_stat {mode : Nat} {content : Bytes} {text : Text}
    (h : tree.stat path = .ok (.file mode content)) (htext : Utf8.decode content = .ok text) :
    tree.readText path = .ok (unifyLines text) := by
  rw [readText, FileName.encode_eq_ok (usable_of_stat h).allowed, read, h]
  simp only [htext]

theorem stat_of_readJson_notFound {e : SystemError} (h : tree.readJson path = .error (.system e))
    (hnone : e.errno = .notFound) : tree.stat path = .error .notFound := by
  have htext : tree.readText path = .error (.system e) := by
    rw [readJson] at h
    split at h
    · next c hc =>
      cases h
      exact hc
    · next t _ =>
      cases hparse : Json.parse t with
      | error e =>
        rw [hparse] at h
        cases h
      | ok v =>
        rw [hparse] at h
        cases h
  have hread : tree.read path = .error e := by
    rw [readText] at htext
    split at htext
    · cases htext
    · split at htext
      · next hread =>
        cases htext
        exact hread
      · split at htext <;> cases htext
  rw [read] at hread
  split at hread
  · next hstat =>
    cases hread
    exact hstat.trans (congrArg _ hnone)
  · cases hread
    cases hnone
  · cases hread

end FileTree

theorem UserFile.read_eq_ok {tree : FileTree} {path : Text} {members : Members}
    (h : read tree path = .ok (.object members)) :
    tree.readJson path = .ok (.object members) ∨
      tree.stat path = .error .notFound ∧ members = [] := by
  rw [read] at h
  split at h
  · next v hv =>
    cases h
    exact .inl hv
  · next e he =>
    split at h
    · next hnone =>
      cases h
      exact .inr ⟨FileTree.stat_of_readJson_notFound he hnone, rfl⟩
    · cases h
  · cases h
  · cases h

namespace Settings

/-- The settings are loaded from the object that is found when the file is changed, unless the tilde
of the path is expanded once more. -/
theorem fileText?_of_read {w : World} {tree : FileTree} {path last : Text} {parent : Place}
    {members : Members} (hfile : userFile w = .ok path)
    (hpath : Path.expandKnown? w.homes path = some (Path.normalize path))
    (hspot : tree.spot path = .ok (.name parent last false))
    (hread : UserFile.read w.files path = .ok (.object members)) :
    ∃ text, fileText? w = some text ∧ membersOfText text = .ok members := by
  have hstat := FileTree.stat_normalize hspot w.files
  rw [fileText?, hfile]
  dsimp only
  rw [hpath]
  dsimp only
  rw [hstat]
  rcases UserFile.read_eq_ok hread with hjson | ⟨hnone, rfl⟩
  · obtain ⟨t, ht, hparse⟩ := FileTree.readJson_eq_ok_iff.1 hjson
    obtain ⟨mode, content, text, hentry, htext, rfl⟩ := FileTree.readText_eq_ok ht
    rw [hentry] at hstat ⊢
    dsimp only
    rw [FileTree.readText_of_stat hstat htext]
    refine ⟨_, rfl, ?_⟩
    rw [membersOfText, Json.strip_of_parse hparse, if_neg Bool.false_ne_true, hparse]
    rfl
  · rw [hnone]
    exact ⟨[], rfl, rfl⟩

end Settings

/-! ## Members by name -/

namespace Members

theorem get?_append (key : Text) (a b : Members) :
    get? key (a ++ b) = (get? key a).or (get? key b) := by
  induction a with
  | nil => rfl
  | cons p rest ih =>
    rw [List.cons_append, get?, get?, ih]
    by_cases hk : p.1 = key
    · rw [if_pos hk, if_pos hk, Option.some_or]
    · rw [if_neg hk, if_neg hk]

theorem get?_filterMap (value? : String → Option Json) (names : List String) (name : String) :
    get? (Text.ofString name) (names.filterMap fun name =>
        (value? name).map fun v => (Text.ofString name, v)) =
      if name ∈ names then value? name else none := by
  induction names with
  | nil => rfl
  | cons first rest ih =>
    by_cases hfirst : first = name
    · subst hfirst
      rw [if_pos List.mem_cons_self]
      cases hvalue : value? first with
      | none =>
        rw [List.filterMap_cons_none (by rw [hvalue]; rfl), ih, hvalue, ite_self]
      | some v =>
        rw [List.filterMap_cons_some (by rw [hvalue]; rfl), get?, if_pos rfl]
    · have hmem : name ∈ first :: rest ↔ name ∈ rest := by
        rw [List.mem_cons, or_iff_right fun h => hfirst h.symm]
      have hname : Text.ofString first ≠ Text.ofString name :=
        fun h => hfirst (Text.ofString_injective h)
      simp only [hmem]
      cases hvalue : value? first with
      | none => rw [List.filterMap_cons_none (by rw [hvalue]; rfl), ih]
      | some v => rw [List.filterMap_cons_some (by rw [hvalue]; rfl), get?, if_neg hname, ih]

theorem find?_insert (q : Text → Bool) (key : Text) (v : Json) (members : Members) :
    (members.insert key v).find? (fun p : Text × Json => q p.1) =
      if q key = true ∧ ∀ p ∈ members.find? fun p : Text × Json => q p.1, p.1 = key then
        some (key, v)
      else members.find? fun p : Text × Json => q p.1 := by
  induction members with
  | nil =>
    by_cases hq : q key = true
    · simp [insert, hq]
    · simp [insert, hq]
  | cons p rest ih =>
    by_cases hk : p.1 = key
    · by_cases hq : q key = true
      · simp [insert, hk, hq]
      · simp [insert, hk, hq]
    · by_cases hq : q p.1 = true
      · simp [insert, hk, hq]
      · have hskip (rest : Members) : (p :: rest).find? (fun p : Text × Json => q p.1) =
            rest.find? fun p : Text × Json => q p.1 := List.find?_cons_of_neg hq
        rw [insert, if_neg hk, hskip, ih]
        simp only [hskip]

end Members

/-! ## Fields of the settings -/

namespace Settings

open Validation

structure Reads (members : Members) (s : Settings) : Prop where
  tokenSources : readSources members = .ok s.tokenSources
  credentialFile : optional "credential_store_file" readText Default.credentialFile members =
    .ok s.credentialFile
  gcloudCommand : optional "gcloud_command" readText Default.gcloudCommand members =
    .ok s.gcloudCommand
  commandTimeout : optional "command_timeout_seconds" (readBounded 600) 60 members =
    .ok s.commandTimeout
  tokenUri : optional "token_uri" readText Default.tokenUri members = .ok s.tokenUri
  authUri : optional "auth_uri" readText Default.authUri members = .ok s.authUri
  clientId : optional "oauth_client_id" readText [] members = .ok s.clientId
  clientSecret : optional "oauth_client_secret" readText [] members = .ok s.clientSecret
  loginTimeout : optional "login_timeout_seconds" (readBounded 3600) 300 members =
    .ok s.loginTimeout
  httpTimeout : optional "http_timeout_seconds" (readBounded 300) 30 members = .ok s.httpTimeout
  logLevel : optional "log_level" readLevel LogLevel.warning members = .ok s.logLevel

variable {members members' : Members} {s : Settings}

theorem eq_ok_of_mapError {ε ε' α : Type} {f : ε → ε'} {r : Except ε α} {x : α}
    (h : r.mapError f = .ok x) : r = .ok x := by
  cases r with
  | error e => cases h
  | ok y =>
    cases h
    rfl

theorem reads_of_ofMembers (h : ofMembers members = .ok s) : Reads members s := by
  rw [ofMembers] at h
  replace h := eq_ok_of_mapError h
  obtain ⟨sources, hsources, h⟩ := FileTree.bind_eq_ok_iff.1 h
  obtain ⟨file, hfile, h⟩ := FileTree.bind_eq_ok_iff.1 h
  obtain ⟨gcloud, hgcloud, h⟩ := FileTree.bind_eq_ok_iff.1 h
  obtain ⟨commandTimeout, hcommandTimeout, h⟩ := FileTree.bind_eq_ok_iff.1 h
  obtain ⟨tokenUri, htokenUri, h⟩ := FileTree.bind_eq_ok_iff.1 h
  obtain ⟨authUri, hauthUri, h⟩ := FileTree.bind_eq_ok_iff.1 h
  obtain ⟨clientId, hclientId, h⟩ := FileTree.bind_eq_ok_iff.1 h
  obtain ⟨clientSecret, hclientSecret, h⟩ := FileTree.bind_eq_ok_iff.1 h
  obtain ⟨loginTimeout, hloginTimeout, h⟩ := FileTree.bind_eq_ok_iff.1 h
  obtain ⟨httpTimeout, hhttpTimeout, h⟩ := FileTree.bind_eq_ok_iff.1 h
  obtain ⟨level, hlevel, h⟩ := FileTree.bind_eq_ok_iff.1 h
  cases h
  exact ⟨hsources, hfile, hgcloud, hcommandTimeout, htokenUri, hauthUri, hclientId, hclientSecret,
    hloginTimeout, hhttpTimeout, hlevel⟩

theorem Reads.ofMembers_eq (h : Reads members s) : ofMembers members = .ok s := by
  rw [ofMembers, h.tokenSources, h.credentialFile, h.gcloudCommand, h.commandTimeout, h.tokenUri,
    h.authUri, h.clientId, h.clientSecret, h.loginTimeout, h.httpTimeout, h.logLevel]
  rfl

theorem readTexts_strings (name : String) (texts : List Text) :
    readTexts name (.array (texts.map .string)) = .ok texts := by
  have houtcomes : (texts.map Json.string).map readText = texts.map .ok := by
    rw [List.map_map]
    rfl
  have hissues {f : Nat × Except Rule Text → Option Issue} (hf : ∀ i t, f (i, .ok t) = none) :
      ((List.range (texts.map Json.string).length).zip (texts.map .ok)).filterMap f = [] := by
    rw [List.filterMap_eq_nil_iff]
    rintro ⟨i, r⟩ hmem
    obtain ⟨t, -, rfl⟩ := List.mem_map.1 (List.of_mem_zip hmem).2
    exact hf i t
  have hvalues : (texts.map (Except.ok : Text → Except Rule Text)).filterMap
      (fun r => r.toOption) = texts := by
    rw [List.filterMap_map]
    exact List.filterMap_some
  rw [readTexts, houtcomes, hissues fun _ _ => rfl, hvalues]
  rfl

/-- Members that differ in the token sources give settings that differ in the token sources. -/
theorem Reads.withSources {texts : List Text} (h : Reads members s)
    (hsources : members'.get? (Text.ofString "token_sources") = some (.array (texts.map .string)))
    (hothers : ∀ name ∈ names, name ≠ "token_sources" →
      members'.get? (Text.ofString name) = members.get? (Text.ofString name)) :
    Reads members' { s with tokenSources := texts } := by
  have hread {α : Type} {name : String} {read : Json → Except Rule α} {default x : α}
      (hname : name ∈ names) (hne : name ≠ "token_sources")
      (hx : optional name read default members = .ok x) :
      optional name read default members' = .ok x := by
    rw [Validation.optional, hothers name hname hne]
    exact hx
  constructor
  · rw [readSources, hsources]
    exact readTexts_strings _ texts
  · exact hread (by decide) (by decide) h.credentialFile
  · exact hread (by decide) (by decide) h.gcloudCommand
  · exact hread (by decide) (by decide) h.commandTimeout
  · exact hread (by decide) (by decide) h.tokenUri
  · exact hread (by decide) (by decide) h.authUri
  · exact hread (by decide) (by decide) h.clientId
  · exact hread (by decide) (by decide) h.clientSecret
  · exact hread (by decide) (by decide) h.loginTimeout
  · exact hread (by decide) (by decide) h.httpTimeout
  · exact hread (by decide) (by decide) h.logLevel

/-! ## Token sources that are set -/

/-- Whether a key names the token sources, in whatever letters. -/
def namesSources (key : Text) : Bool := lowercase key == Text.ofString "token_sources"

/-- No member in front of the token sources bears their name in other letters. -/
def SourcesFirst (members : Members) : Prop :=
  ∀ p ∈ members.find? fun p : Text × Json => namesSources p.1, p.1 = UserFile.sourcesKey

def written (texts : List Text) (members : Members) : Members :=
  Members.insert UserFile.sourcesKey (.array (texts.map .string)) (Json.rereadMembers members)

theorem lowercase_sourcesKey : lowercase UserFile.sourcesKey = Text.ofString "token_sources" := by
  decide +kernel

theorem find?_rereadMembers (q : Text → Bool) (members : Members) :
    (Json.rereadMembers members).find? (fun p : Text × Json => q p.1) =
      (members.find? fun p : Text × Json => q p.1).map fun p => (p.1, Json.reread p.2) := by
  rw [Json.rereadMembers_eq_map, List.find?_map]
  rfl

section

variable {texts : List Text}

/-- Setting the token sources leaves every other setting as it is read back. -/
theorem ignoringCase?_written_of_ne {name : String} (hne : name ≠ "token_sources") :
    ignoringCase? name (written texts members) = (ignoringCase? name members).map Json.reread := by
  have hother : (lowercase UserFile.sourcesKey == Text.ofString name) = false := by
    rw [lowercase_sourcesKey, beq_eq_false_iff_ne]
    exact fun h => hne (Text.ofString_injective h).symm
  rw [ignoringCase?, ignoringCase?, written,
    Members.find?_insert (fun key => lowercase key == Text.ofString name),
    if_neg (by simp [hother]), find?_rereadMembers (fun key => lowercase key == Text.ofString name),
    Option.map_map, Option.map_map]
  rfl

theorem sourcesFirst_rereadMembers :
    SourcesFirst (Json.rereadMembers members) ↔ SourcesFirst members := by
  rw [SourcesFirst, SourcesFirst, find?_rereadMembers]
  cases members.find? fun p : Text × Json => namesSources p.1 with
  | none => exact Iff.rfl
  | some p => simp

theorem ignoringCase?_sources (members : Members) :
    ignoringCase? "token_sources" members =
      (members.find? fun p : Text × Json => namesSources p.1).map (·.2) := rfl

theorem ignoringCase?_written_of_first (h : SourcesFirst members) :
    ignoringCase? "token_sources" (written texts members) =
      some (.array (texts.map .string)) := by
  rw [ignoringCase?_sources, written, Members.find?_insert,
    if_pos ⟨beq_iff_eq.2 lowercase_sourcesKey, sourcesFirst_rereadMembers.2 h⟩]
  rfl

theorem ignoringCase?_written_of_not_first (h : ¬SourcesFirst members) :
    ignoringCase? "token_sources" (written texts members) =
      (ignoringCase? "token_sources" members).map Json.reread := by
  rw [ignoringCase?_sources, written, Members.find?_insert,
    if_neg fun hfirst => h (sourcesFirst_rereadMembers.1 hfirst.2), find?_rereadMembers,
    ignoringCase?_sources, Option.map_map, Option.map_map]
  rfl

theorem get?_recognized (name : String) (members : Members) :
    (recognized members).get? (Text.ofString name) =
      if name ∈ names then ignoringCase? name members else none :=
  Members.get?_filterMap (fun name => ignoringCase? name members) names name

theorem reread_of_recognized (h : ∀ p ∈ recognized members, Json.FloatFree p.2) {name : String}
    (hname : name ∈ names) :
    (ignoringCase? name members).map Json.reread = ignoringCase? name members := by
  cases hvalue : ignoringCase? name members with
  | none => rfl
  | some v =>
    have hmem : (Text.ofString name, v) ∈ recognized members :=
      List.mem_filterMap.2 ⟨name, hname, by rw [hvalue]; rfl⟩
    rw [Option.map_some, (h _ hmem).reread]

theorem get?_ofEnvironment {environment : List (Text × Text)} {given : Members}
    (h : ofEnvironment environment = .ok given) (hnone : text? environment "token_sources" = none) :
    given.get? (Text.ofString "token_sources") = none := by
  have htexts := Members.get?_filterMap (fun name => (text? environment name).map .string)
    (names.erase "token_sources") "token_sources"
  rw [ofEnvironment, hnone] at h
  cases h
  simp only [Option.map_map] at htexts
  exact htexts.trans (if_neg (by decide))

/-- The settings that are loaded after the token sources were set: they differ in these alone, or
not at all if a member with the same name in other letters stands in front. -/
theorem load_of_written {w v : World} {text text' : Text} (hw : fileText? w = some text)
    (hmembers : membersOfText text = .ok members) (hv : fileText? v = some text')
    (hwritten : membersOfText text' = .ok (written texts members))
    (henvironment : v.environment = w.environment)
    (hnone : text? w.environment "token_sources" = none)
    (hfree : ∀ p ∈ recognized members, Json.FloatFree p.2) (hload : load [] w = .ok s) :
    (SourcesFirst members → load [] v = .ok { s with tokenSources := texts }) ∧
      (¬SourcesFirst members → load [] v = .ok s) := by
  rw [load_eq hw, hmembers] at hload
  rw [load_eq hv, hwritten, henvironment]
  obtain ⟨filed, hfiled, hload⟩ := FileTree.bind_eq_ok_iff.1 hload
  cases hfiled
  obtain ⟨given, hgiven, hload⟩ := FileTree.bind_eq_ok_iff.1 hload
  have hothers {name : String} (hname : name ∈ names) (hne : name ≠ "token_sources") :
      ignoringCase? name (written texts members) = ignoringCase? name members :=
    (ignoringCase?_written_of_ne hne).trans (reread_of_recognized hfree hname)
  constructor
  · intro hfirst
    have hreads : Reads (given ++ recognized members) s :=
      reads_of_ofMembers (eq_ok_of_mapError hload)
    have hreads' : Reads (given ++ recognized (written texts members))
        { s with tokenSources := texts } := by
      refine hreads.withSources ?_ fun name hname hne => ?_
      · rw [Members.get?_append, get?_ofEnvironment hgiven hnone, Option.none_or, get?_recognized,
          if_pos (by decide), ignoringCase?_written_of_first hfirst]
      · rw [Members.get?_append, Members.get?_append, get?_recognized, get?_recognized,
          if_pos hname, if_pos hname, hothers hname hne]
    simp only [bind, Except.bind, hgiven, hreads'.ofMembers_eq]
    rfl
  · intro hfirst
    have hsame : recognized (written texts members) = recognized members := by
      refine List.filterMap_congr fun name hname => ?_
      by_cases hne : name = "token_sources"
      · rw [hne, ignoringCase?_written_of_not_first hfirst, reread_of_recognized hfree (by decide)]
      · rw [hothers hname hne]
    simp only [bind, Except.bind, hgiven, hsame]
    exact hload

end

end Settings

end CredentialHelper
