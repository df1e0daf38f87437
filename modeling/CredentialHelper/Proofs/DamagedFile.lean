import CredentialHelper.Proofs.Logout

/-!
# A damaged store file

Whatever bytes stand in the store file, loading, saving and deleting come to a result or to an error
of the store, except for three kinds of content that all of them trip over in the same way
(`StoreFile.Escapes`).  Where a file is reported as unreadable the resolver tries the next source,
and a new credential can be saved over it.
-/

namespace CredentialHelper

open CredentialHelper.Action

namespace StoreFile

variable {tree : FileTree} {path : Text} {content : Bytes} {mode : Nat} {cause : Cause}
  {e : HelperError}

/-- The failures from outside that pass through reading a content as a store. -/
inductive Escapes (content : Bytes) : Cause → Prop
  /-- It is not in UTF-8. -/
  | decoding {e : DecodeError} (h : Utf8.decode content = .error e) : Escapes content (.decoding e)
  | longInteger {t : Text} {digits : Nat} (ht : Utf8.decode content = .ok t)
      (h : Json.parse (unifyLines t) = .error (.longInteger digits)) :
      Escapes content (.document (.longInteger digits))
  | tooDeep {t : Text} {isArray : Bool} (ht : Utf8.decode content = .ok t)
      (h : Json.parse (unifyLines t) = .error (.tooDeep isArray)) :
      Escapes content (.document (.tooDeep isArray))

/-- An operation on a store file of some content comes to a value or to an error of one kind, unless
the content lets a failure through. -/
structure Reports {α : Type} (kind : ErrorKind) (content : Bytes) (r : Except Failure α) :
    Prop where
  kind : ∀ e, r = .error (.helper e) → e.kind = kind
  escapes : ∀ cause, r = .error (.foreign cause) ↔ Escapes content cause

/-- A file holds no value where its content is no text, or the text no document. -/
theorem readJson_eq_error_iff (h : tree.stat path = .ok (.file mode content)) :
    tree.readJson path = .error cause ↔
      (∃ e, Utf8.decode content = .error e ∧ cause = .decoding e) ∨
        ∃ t e, Utf8.decode content = .ok t ∧ Json.parse (unifyLines t) = .error e ∧
          cause = .document e := by
  rw [FileTree.readJson, FileTree.readText,
    FileName.encode_eq_ok (FileTree.usable_of_stat h).allowed, FileTree.read_of_stat h]
  dsimp only
  cases Utf8.decode content with
  | error e => simp [eq_comm]
  | ok t =>
    cases hparse : Json.parse (unifyLines t) with
    | error e => simp [hparse, Except.mapError, eq_comm]
    | ok v => simp [hparse, Except.mapError]

theorem read_eq_foreign_iff : read tree path = .error (.foreign cause) ↔
    tree.readJson path = .error cause ∧ readError path cause = none := by
  rw [read_def]
  cases tree.readJson path with
  | error cause' =>
    dsimp only
    cases hreport : readError path cause' with
    | some e =>
      simp only [Except.error.injEq, reduceCtorEq, false_iff, not_and]
      rintro rfl
      simp [hreport]
    | none =>
      simp only [Except.error.injEq, Failure.foreign.injEq]
      exact ⟨fun heq => ⟨heq, heq ▸ hreport⟩, fun h => h.1⟩
  | ok v => cases v <;> simp

/-- What passes through reading a file is given by its content. -/
theorem read_eq_foreign_iff_escapes (h : tree.stat path = .ok (.file mode content)) :
    read tree path = .error (.foreign cause) ↔ Escapes content cause := by
  rw [read_eq_foreign_iff, readJson_eq_error_iff h]
  constructor
  · rintro ⟨⟨e, he, rfl⟩ | ⟨t, e, ht, hparse, rfl⟩, hreport⟩
    · exact .decoding he
    · cases e with
      | malformed e => cases hreport
      | longInteger digits => exact .longInteger ht hparse
      | tooDeep isArray => exact .tooDeep ht hparse
  · intro hescapes
    cases hescapes with
    | decoding he => exact ⟨.inl ⟨_, he, rfl⟩, rfl⟩
    | longInteger ht hparse => exact ⟨.inr ⟨_, _, ht, hparse, rfl⟩, rfl⟩
    | tooDeep ht hparse => exact ⟨.inr ⟨_, _, ht, hparse, rfl⟩, rfl⟩

/-! ## The operations -/

/-- Where a failure passes through reading the file, an operation that ends with it reports. -/
theorem reports_of_foreign {α : Type} (kind : ErrorKind)
    (h : tree.stat path = .ok (.file mode content))
    (hread : read tree path = .error (.foreign cause)) :
    Reports kind content (.error (.foreign cause) : Except Failure α) := by
  refine ⟨nofun, fun cause' => ?_⟩
  rw [← read_eq_foreign_iff_escapes h, hread]
  simp

/-- Where nothing passes through reading the file, an operation reports that fails with errors of
one kind only. -/
theorem reports_of_kind {α : Type} {kind : ErrorKind} {r : Except Failure α}
    (h : tree.stat path = .ok (.file mode content))
    (hread : ∀ cause, read tree path ≠ .error (.foreign cause))
    (hr : ∀ f, r = .error f → ∃ e, f = .helper e ∧ e.kind = kind) : Reports kind content r := by
  refine ⟨fun e he => ?_, fun cause => ⟨fun hcause => ?_, fun hescapes => ?_⟩⟩
  · obtain ⟨e', heq, hkind⟩ := hr _ he
    cases heq
    exact hkind
  · obtain ⟨e', heq, -⟩ := hr _ hcause
    cases heq
  · exact absurd ((read_eq_foreign_iff_escapes h).2 hescapes) (hread cause)

theorem exists_credential_eq_helper {f : Failure} {members : Members}
    (h : credential path members = .error f) : ∃ e, f = .helper e ∧ e.kind = .storeRead := by
  rw [credential] at h
  split at h
  · cases h
    exact ⟨_, rfl, rfl⟩
  · split at h
    · cases h
    · cases h
      exact ⟨_, rfl, rfl⟩

theorem exists_write_eq_helper {members : Members} {f : Failure}
    (h : (write tree path members).2 = .error f) : ∃ e, f = .helper e ∧ e.kind = .storeWrite := by
  have hends := ends_write tree path members
  generalize write tree path members = result at hends h
  cases hends with
  | unmade _ =>
    cases h
    exact ⟨_, rfl, rfl⟩
  | unstaged _ _ =>
    cases h
    exact ⟨_, rfl, rfl⟩
  | unmoved _ _ _ =>
    cases h
    exact ⟨_, rfl, rfl⟩
  | done _ _ _ => cases h

theorem reports_load (h : tree.stat path = .ok (.file mode content)) :
    Reports .storeRead content ((read tree path).bind (credential path)) := by
  rcases hread : read tree path with (e | cause) | members
  · refine reports_of_kind h (by rw [hread]; nofun) fun f hf => ?_
    cases hf
    exact ⟨e, rfl, kind_of_read hread⟩
  · exact reports_of_foreign _ h hread
  · exact reports_of_kind h (by rw [hread]; nofun) fun f hf => exists_credential_eq_helper hf

theorem reports_save (h : tree.stat path = .ok (.file mode content)) (c : StoredCredential) :
    Reports .storeWrite content (save tree path c).2 := by
  rcases save_cases tree path c with ⟨cause, hread, heq⟩ | ⟨hread, members, heq⟩
  · rw [heq]
    exact reports_of_foreign _ h hread
  · rw [heq]
    exact reports_of_kind h hread fun f hf => exists_write_eq_helper hf

theorem reports_delete (h : tree.stat path = .ok (.file mode content)) :
    Reports .storeWrite content ((remove tree path).2.map fun _ => ()) := by
  rcases remove_cases tree path with ⟨cause, hread, heq⟩ | ⟨hread, heq | ⟨_, rest, -, heq⟩⟩
  · rw [heq]
    exact reports_of_foreign _ h hread
  · rw [heq]
    exact reports_of_kind h hread nofun
  · rw [heq]
    refine reports_of_kind h hread fun f hf => ?_
    cases hwrite : (write tree path rest).2 with
    | error f' =>
      rw [hwrite] at hf
      cases hf
      exact exists_write_eq_helper hwrite
    | ok _ =>
      rw [hwrite] at hf
      cases hf

/-- Where nothing passes through reading the file, a credential can be saved over its content. -/
theorem save_over_file {c : StoredCredential} (hc : c.Storable)
    (h : tree.stat path = .ok (.file mode content)) (hescapes : ∀ cause, ¬Escapes content cause)
    (hfits : Fits path) (hfolder : tree.isDirectory (folder path) = true)
    (hstaged : tree.isDirectory (stagingPath path) = false) :
    ∃ after, save tree path c = (after, .ok ()) ∧
      (read after path).bind (credential path) = .ok c := by
  have hfile : tree.isDirectory path = false := by
    rw [FileTree.isDirectory, h]
  obtain ⟨parent, hready⟩ := hfits.exists_ready hfolder hfile hstaged
  rcases save_cases tree path c with ⟨cause, hread, -⟩ | ⟨-, members, heq⟩
  · exact absurd ((read_eq_foreign_iff_escapes h).1 hread) (hescapes cause)
  · rw [write_eq members hready.makeDirectories hready] at heq
    exact ⟨_, heq, credential_of_save hc heq⟩

end StoreFile

namespace CredentialStore

open StoreFile

theorem passes_of_load_eq_error {s : CredentialStore} {w : World} {e : HelperError}
    {adapters : Resolver.Adapters World} {identifier : Text} {timeout : Int}
    (hload : (s.load.runOn w).1 = .error (.helper e)) (hkind : e.kind = .storeRead)
    (hparse : SourceKind.parse identifier = .ok .store)
    (hadapter : adapters .store = some (some <$> StoreSource.resolve s timeout)) :
    ∃ t, Resolver.position adapters identifier w = .passes e t .store := by
  have hsource : e.kind.isSourceFailure = true := by
    rw [hkind]
    rfl
  have hnoted : s.load.runOn (Journaled.note (Resolver.triedLine identifier) w) =
      (.error (.helper e),
        Journaled.note s.loadingLine (Journaled.note (Resolver.triedLine identifier) w)) := by
    rw [runOn_load] at hload ⊢
    exact Prod.ext hload rfl
  have hrun : ((some <$> StoreSource.resolve s timeout).runOn
      (Journaled.note (Resolver.triedLine identifier) w)).1 = .error (.helper e) := by
    rw [runOn_map, StoreSource.resolve, runOn_bind, hnoted]
    rfl
  exact ⟨_, Resolver.position_eq_passes_iff.2
    ⟨hparse, hsource, _, _, hadapter, Prod.ext hrun rfl, rfl⟩⟩

/-- Whatever stands in the store file, the store reports its failures, but for the failures that the
content lets through.  If it reports that no credential can be loaded, the resolver tries the next
source.  If nothing passes through, a credential can be saved over the content. -/
theorem reports_damage (s : CredentialStore) {w : World} {mode : Nat} {content : Bytes}
    (hfile : w.files.stat s.path = .ok (.file mode content)) :
    Reports .storeRead content (s.load.runOn w).1 ∧
    (∀ c, Reports .storeWrite content ((s.save c).runOn w).1) ∧
    Reports .storeWrite content (s.delete.runOn w).1 ∧
    (∀ e adapters identifier timeout, (s.load.runOn w).1 = .error (.helper e) →
      SourceKind.parse identifier = .ok .store →
      adapters .store = some (some <$> StoreSource.resolve s timeout) →
      ∃ t, Resolver.position adapters identifier w = .passes e t .store) ∧
    ((∀ cause, ¬Escapes content cause) → Fits s.path →
      w.files.isDirectory (folder s.path) = true →
      w.files.isDirectory (stagingPath s.path) = false →
      ∀ c : StoredCredential, c.Storable →
        ∃ t, (s.save c).runOn w = (.ok (), t) ∧ (s.load.runOn t).1 = .ok c) := by
  have hload : Reports .storeRead content (s.load.runOn w).1 := by
    rw [runOn_load]
    exact reports_load hfile
  refine ⟨hload, fun c => ?_, ?_, ?_, ?_⟩
  · rw [result_save]
    exact reports_save hfile c
  · rw [result_delete]
    exact reports_delete hfile
  · intro e adapters identifier timeout he
    exact passes_of_load_eq_error he (hload.kind e he)
  · intro hescapes hfits hfolder hstaged c hc
    obtain ⟨after, hsave, hafter⟩ := save_over_file hc hfile hescapes hfits hfolder hstaged
    refine ⟨Journaled.note s.savedLine { w with files := after }, ?_, ?_⟩
    · rw [runOn_save, hsave]
    · rw [runOn_load]
      exact hafter

theorem reports_damage_brace :
    (∃ e t, Resolver.position (fun _ => some (some <$> StoreSource.resolve ⟨"creds.json"⟩ 30))
      "store" (fileWorld 0o600 (Utf8.encode "\x7b")) = .passes e t .store) ∧
    ∃ t, (save ⟨"creds.json"⟩ {}).runOn (fileWorld 0o600 (Utf8.encode "\x7b")) = (.ok (), t) ∧
      ((load ⟨"creds.json"⟩).runOn t).1 = .ok {} := by
  have hreported : hasKind .storeRead
      ((load ⟨"creds.json"⟩).runOn (fileWorld 0o600 (Utf8.encode "\x7b"))).1 = true := by
    decide +kernel
  obtain ⟨e, hload, -⟩ := exists_of_hasKind hreported
  obtain ⟨hreports, -, -, hpasses, hsaves⟩ :=
    reports_damage ⟨"creds.json"⟩ (stat_fileWorld 0o600 (Utf8.encode "\x7b"))
  have hescapes : ∀ cause, ¬Escapes (Utf8.encode "\x7b") cause := by
    intro cause hcause
    cases hload.symm.trans ((hreports.escapes cause).2 hcause)
  have hparse : SourceKind.parse "store" = .ok .store := SourceKind.parse_identifier .store
  have hdirectory : Path.directory "creds.json" = [] := by decide
  have hfolder := isDirectory_folder (fileWorld 0o600 (Utf8.encode "\x7b")).files hdirectory
  exact ⟨⟨e, hpasses e _ "store" 30 hload hparse rfl⟩,
    hsaves hescapes starts_bare.fits hfolder (by decide +kernel) {}
      StoredCredential.storable_default⟩

theorem load_undecodable :
    ((load ⟨"creds.json"⟩).runOn (fileWorld 0o600 [0xff])).1 =
      .error (.foreign (.decoding ⟨"utf-8", 0xff, 0, 1, .invalidStart⟩)) := by
  have hdecode : Utf8.decode [0xff] = .error ⟨"utf-8", 0xff, 0, 1, .invalidStart⟩ := by
    decide +kernel
  have hread := (read_eq_foreign_iff_escapes (stat_fileWorld 0o600 [0xff])).2 (.decoding hdecode)
  have hpath : CredentialStore.path ⟨"creds.json"⟩ = "creds.json" := rfl
  rw [runOn_load, hpath, hread]
  rfl

end CredentialStore

end CredentialHelper
