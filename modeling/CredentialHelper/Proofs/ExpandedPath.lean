import CredentialHelper.Proofs.CommandFiles
import CredentialHelper.Proofs.SettingsFile

/-!
# Paths that are expanded twice

The settings expand the path of the store file, and the store expands what it is given once more.
A path keeps its tilde only where the tilde stands for nothing that is known, and otherwise gets the
beginning of a home.  So where no home begins with a tilde, the second time changes nothing
(`Path.expand_expand`).
-/

namespace CredentialHelper

/-- No home begins with a tilde. -/
structure Homes.Plain (homes : Homes) : Prop where
  current : ∀ home ∈ homes.current, Path.hasTilde home = false
  users : ∀ user ∈ homes.users, Path.hasTilde user.2 = false

theorem World.homes_plain {w : World}
    (hhome : ∀ home, w.environment? "HOME" = some home → Path.hasTilde home = false)
    (haccounts : ∀ account ∈ w.accounts, Path.hasTilde account.2 = false) : w.homes.Plain := by
  refine ⟨fun home hmem => ?_, haccounts⟩
  rw [Option.mem_def, homes] at hmem
  dsimp only at hmem
  split at hmem
  · next home' hhome' =>
    cases hmem
    exact hhome home hhome'
  · obtain ⟨account, haccount, rfl⟩ := Option.map_eq_some_iff.1 hmem
    exact haccounts account (List.mem_of_mem_head? haccount)

namespace Path

variable {homes : Homes} {home rest path expanded : Text}

theorem hasTilde_append {front : Text} (hne : front ≠ []) (rest : Text) :
    hasTilde (front ++ rest) = hasTilde front := by
  rw [hasTilde, hasTilde, List.head?_append_of_ne_nil _ hne]

theorem hasTilde_of_front {front : Text} (h : front <+: path) (hpath : hasTilde path = false) :
    hasTilde front = false := by
  obtain ⟨rest, rfl⟩ := h
  by_cases hne : front = []
  · rw [hne]
    rfl
  · rwa [hasTilde_append hne] at hpath

/-- What follows the name of a user is empty or begins with a slash. -/
theorem hasTilde_dropWhile (rest : Text) : hasTilde (rest.dropWhile (· != slash)) = false := by
  rw [hasTilde, beq_eq_false_iff_ne]
  intro hhead
  have hnot := List.head?_dropWhile_not (· != slash) rest
  rw [hhead] at hnot
  exact absurd hnot (by decide)

theorem hasTilde_underHome (hhome : hasTilde home = false) (hrest : hasTilde rest = false) :
    hasTilde (underHome home rest) = false := by
  rw [underHome]
  split
  · rfl
  · by_cases hnil : dropSlashes home = []
    · rwa [hnil]
    · rw [hasTilde_append hnil]
      exact hasTilde_of_front (dropSlashes_front home) hhome

theorem expand_of_not_hasTilde (homes : Homes) (h : hasTilde path = false) :
    expand homes path = .ok path := by
  rw [expand.eq_def]
  split
  · cases h
  · rfl

theorem expand_eq_ok (hplain : homes.Plain) (h : expand homes path = .ok expanded) :
    expanded = path ∨ hasTilde expanded = false := by
  rw [expand.eq_def] at h
  split at h
  · next rest =>
    have hexpanded : ∃ home : Option Text, (∀ known ∈ home, hasTilde known = false) ∧
        expanded = home.elim (.char '~' :: rest) fun known =>
          underHome known (rest.dropWhile (· != slash)) := by
      dsimp only at h
      split at h
      · refine ⟨homes.current, hplain.current, ?_⟩
        rw [← Except.ok.inj h]
        cases homes.current <;> rfl
      · cases hname : FileName.encode (rest.takeWhile (· != slash)) with
        | error e =>
          rw [hname] at h
          cases h
        | ok bytes =>
          rw [hname] at h
          refine ⟨homes.users.lookup (rest.takeWhile (· != slash)), fun known hmem => ?_, ?_⟩
          · obtain ⟨front, back, heq, -⟩ := List.lookup_eq_some_iff.1 hmem
            exact hplain.users _ (heq ▸ List.mem_append_right front List.mem_cons_self)
          · rw [← Except.ok.inj h]
            cases homes.users.lookup (rest.takeWhile (· != slash)) <;> rfl
    obtain ⟨home, hhome, rfl⟩ := hexpanded
    cases home with
    | none => exact .inl rfl
    | some known => exact .inr (hasTilde_underHome (hhome known rfl) (hasTilde_dropWhile rest))
  · exact .inl (Except.ok.inj h).symm

/-- Expanding a second time changes nothing. -/
theorem expand_expand (hplain : homes.Plain) (path : Text) :
    (expand homes path).bind (expand homes) = expand homes path := by
  cases h : expand homes path with
  | error e => rfl
  | ok expanded =>
    show expand homes expanded = .ok expanded
    rcases expand_eq_ok hplain h with rfl | hnone
    · exact h
    · exact expand_of_not_hasTilde homes hnone

end Path

/-! ## The path of the store -/

namespace Settings

open Validation

variable {w : World} {members : Members} {s : Settings} {p : Text}

def fileGiven (p : Text) : Members := [(Text.ofString "credential_store_file", .string p)]

theorem optional_fileGiven {α : Type} {name : String} {read : Json → Except Rule α} {default : α}
    (hname : name ≠ "credential_store_file") (p : Text) (members : Members) :
    optional name read default (fileGiven p ++ members) = optional name read default members := by
  have hget : (fileGiven p).get? (Text.ofString name) = none :=
    if_neg fun h => hname (Text.ofString_injective h).symm
  rw [Validation.optional, Validation.optional, Members.get?_append, hget, Option.none_or]

theorem Reads.withFile (h : Reads members s) (p : Text) :
    Reads (fileGiven p ++ members) { s with credentialFile := p } := by
  have hother {α : Type} {name : String} {read : Json → Except Rule α} {default x : α}
      (hname : name ≠ "credential_store_file") (hx : optional name read default members = .ok x) :
      optional name read default (fileGiven p ++ members) = .ok x :=
    (optional_fileGiven hname p members).trans hx
  constructor
  · exact h.tokenSources
  · rfl
  · exact hother (by decide) h.gcloudCommand
  · exact hother (by decide) h.commandTimeout
  · exact hother (by decide) h.tokenUri
  · exact hother (by decide) h.authUri
  · exact hother (by decide) h.clientId
  · exact hother (by decide) h.clientSecret
  · exact hother (by decide) h.loginTimeout
  · exact hother (by decide) h.httpTimeout
  · exact hother (by decide) h.logLevel

/-- Settings come from the members of the three layers, the given ones in front. -/
theorem load_eq_ok_iff {given : Members} :
    load given w = .ok s ↔ ∃ file filed environment, userFile w = .ok file ∧
      ofFile w.homes w.files file = .ok filed ∧ ofEnvironment w.environment = .ok environment ∧
      ofMembers (recognized given ++ environment ++ recognized filed) = .ok s := by
  constructor
  · intro h
    rw [load] at h
    obtain ⟨file, hfile, h⟩ := FileTree.bind_eq_ok_iff.1 h
    obtain ⟨filed, hfiled, h⟩ := FileTree.bind_eq_ok_iff.1 h
    obtain ⟨environment, henvironment, h⟩ := FileTree.bind_eq_ok_iff.1 h
    exact ⟨file, filed, environment, eq_ok_of_mapError hfile, hfiled, henvironment,
      eq_ok_of_mapError h⟩
  · rintro ⟨file, filed, environment, hfile, hfiled, henvironment, h⟩
    rw [load, hfile]
    show (ofFile w.homes w.files file >>= _) = _
    rw [hfiled]
    show (ofEnvironment w.environment >>= _) = _
    rw [henvironment]
    show (ofMembers _).mapError _ = _
    rw [h]
    rfl

theorem recognized_fileGiven (p : Text) : recognized (fileGiven p) = fileGiven p := by
  have hlower : lowercase (Text.ofString "credential_store_file") =
      Text.ofString "credential_store_file" := by decide +kernel
  have hname (name : String) : ignoringCase? name (fileGiven p) =
      if name = "credential_store_file" then some (.string p) else none := by
    rw [ignoringCase?, fileGiven, List.find?_singleton, hlower]
    by_cases heq : name = "credential_store_file"
    · rw [heq, if_pos (beq_self_eq_true _), if_pos rfl]
      rfl
    · rw [if_neg fun h => heq (Text.ofString_injective (eq_of_beq h)).symm, if_neg heq]
      rfl
  simp only [recognized, hname]
  rfl

/-- A path that is given is kept as it is, and takes the place of any other. -/
theorem load_fileGiven (p : Text) :
    (∀ s, load (fileGiven p) w = .ok s → s.credentialFile = p) ∧
      ∀ s, load [] w = .ok s → load (fileGiven p) w = .ok { s with credentialFile := p } := by
  have hgiven : recognized (fileGiven p) = fileGiven p := recognized_fileGiven p
  constructor
  · intro s h
    obtain ⟨file, filed, environment, -, -, -, hmembers⟩ := load_eq_ok_iff.1 h
    rw [hgiven] at hmembers
    exact (Except.ok.inj (reads_of_ofMembers hmembers).credentialFile).symm
  · intro s h
    obtain ⟨file, filed, environment, hfile, hfiled, henvironment, hmembers⟩ := load_eq_ok_iff.1 h
    refine load_eq_ok_iff.2 ⟨file, filed, environment, hfile, hfiled, henvironment, ?_⟩
    rw [hgiven, List.append_assoc]
    exact ((reads_of_ofMembers hmembers).withFile p).ofMembers_eq

theorem store_eq (hplain : w.homes.Plain) (s : Settings) :
    s.store w.homes = CredentialStore.ofPath w.homes s.credentialFile := by
  have htwice := Path.expand_expand hplain s.credentialFile
  rw [store, storePath, CredentialStore.ofPath]
  cases hfirst : Path.expand w.homes s.credentialFile with
  | error e => rfl
  | ok path =>
    rw [hfirst] at htwice
    exact congrArg (Except.map CredentialStore.mk) htwice

/-- Where no home begins with a tilde, expanding a path twice is expanding it once.  So the store at
a path, the settings with that path and the store that such settings name have the same file, for
whoever makes them. -/
theorem same_store_file (w : World) (p : Text)
    (hhome : ∀ home, w.environment? "HOME" = some home → Path.hasTilde home = false)
    (haccounts : ∀ account ∈ w.accounts, Path.hasTilde account.2 = false) :
    (Path.expand w.homes p).bind (Path.expand w.homes) = Path.expand w.homes p ∧
      (∀ s, load (fileGiven p) w = .ok s → s.credentialFile = p) ∧
      (∀ s, load [] w = .ok s → load (fileGiven p) w = .ok { s with credentialFile := p }) ∧
      ∀ s : Settings, s.credentialFile = p →
        s.storePath w.homes = (CredentialStore.ofPath w.homes p).map CredentialStore.path ∧
        s.store w.homes = CredentialStore.ofPath w.homes p ∧
        (CommandLine.makeStore s).runOn w =
          ((CredentialStore.ofPath w.homes p).mapError fun e => .foreign (.fileName e), w) := by
  have hplain := World.homes_plain hhome haccounts
  refine ⟨Path.expand_expand hplain p, (load_fileGiven p).1, (load_fileGiven p).2, ?_⟩
  rintro s rfl
  refine ⟨?_, store_eq hplain s, ?_⟩
  · rw [storePath, CredentialStore.ofPath]
    cases Path.expand w.homes s.credentialFile <;> rfl
  · rw [CommandLine.runOn_makeStore, store_eq hplain]

/-- A user whose home is written with a slash behind it. -/
def homeWorld : World :=
  { World.bare with
    environment := [(Text.ofString "HOME", Text.ofString "/home/user/")]
    accounts := [(Text.ofString "user", Text.ofString "/home/user")] }

theorem same_store_file_home :
    ∃ s, load (fileGiven "~/store.json") homeWorld = .ok s ∧
      s.storePath homeWorld.homes = .ok "/home/user/store.json" ∧
      s.store homeWorld.homes = .ok ⟨"/home/user/store.json"⟩ := by
  obtain ⟨-, -, hloads, hsame⟩ := same_store_file homeWorld "~/store.json"
    (by rintro home ⟨⟩; decide) (by decide)
  have hpath : CredentialStore.ofPath homeWorld.homes "~/store.json" =
      .ok ⟨"/home/user/store.json"⟩ := by decide +kernel
  have hdefault : (load [] homeWorld).isOk = true := by decide +kernel
  cases hload : load [] homeWorld with
  | error e =>
    rw [hload] at hdefault
    cases hdefault
  | ok s =>
    obtain ⟨hstorePath, hstore, -⟩ := hsame { s with credentialFile := "~/store.json" } rfl
    rw [hpath] at hstorePath hstore
    exact ⟨_, hloads s hload, hstorePath, hstore⟩

end Settings

end CredentialHelper
