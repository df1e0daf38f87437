import CredentialHelper.Proofs.MadeDirectories
import CredentialHelper.Proofs.StoreFile
import CredentialHelper.Settings.UserFile

/-!
# Which places an operation on files changes

A path that does not lead up has a place of its own, whatever the tree (`placeOf`).  An operation on
such a path changes at most that place (`ChangesOnly`), and where it makes directories first these
lie above the place and are new (`ChangesNear`).  Both hold however the operation ends.
-/

namespace CredentialHelper

open FileName

/-! ## The place of a path -/

namespace Path

theorem mem_of_mem_names {path name : Text} {s : Symbol} (hname : name ∈ names path)
    (hs : s ∈ name) : s ∈ path :=
  (mem_of_mem_splitWhere (List.mem_of_mem_filter hname) hs).1

def Straight (path : Text) : Prop := FileTree.parentName ∉ names path

/-- The path of a file by names only: it ends in one, and none leads up. -/
structure Plain (path : Text) : Prop where
  endsInName : EndsInName path
  straight : Straight path

example : Plain "/root/.config/gcloud/docker_credentials.json" :=
  ⟨⟨by decide, by decide, by decide⟩, show FileTree.parentName ∉ names _ by decide⟩

theorem Straight.directory {path : Text} (h : Straight path) : Straight (directory path) := by
  obtain ⟨-, -, hnames⟩ := split_spec path
  intro hmem
  refine h ?_
  rw [hnames]
  exact List.mem_append_left _ hmem

end Path

namespace FileTree

/-- The place to which a path leads that does not lead up. -/
def placeOf (path : Text) : Place :=
  start path ++ ((Path.names path).filter fun name => name ≠ Text.ofString ".").map canonical

variable {tree tree' tree'' : FileTree} {path : Text}

theorem step_eq_ok {place place' : Place} {name : Text} (hallowed : ∀ s ∈ name, Allowed s)
    (hup : name ≠ parentName) (h : tree.step place (canonical name) = .ok place') :
    place' = place ++ ([name].filter fun name => name ≠ Text.ofString ".").map canonical := by
  rw [step] at h
  by_cases hdot : name = Text.ofString "."
  · have hcanonical : canonical name = Text.ofString "." := by
      rw [hdot]
      exact canonical_map_char (by decide)
    rw [if_pos hcanonical] at h
    cases h
    simp [hdot]
  · have hdot' : canonical name ≠ Text.ofString "." := canonical_ne hallowed (by decide) hdot
    have hup' : canonical name ≠ parentName := canonical_ne hallowed (by decide) hup
    rw [if_neg hdot', if_neg hup'] at h
    have hkept : [name].filter (fun name => name ≠ Text.ofString ".") = [name] := by simp [hdot]
    rw [hkept]
    split at h
    · cases h
    · split at h
      · cases h
        rfl
      · cases h
      · cases h

theorem walk_eq_ok {place place' : Place} {names : List Text}
    (hallowed : ∀ name ∈ names, ∀ s ∈ name, Allowed s) (hup : parentName ∉ names)
    (h : tree.walk place names = .ok place') :
    place' = place ++ (names.filter fun name => name ≠ Text.ofString ".").map canonical := by
  induction names generalizing place with
  | nil =>
    cases h
    simp
  | cons name names ih =>
    rw [← List.singleton_append, walk_append, walk_singleton] at h
    obtain ⟨next, hstep, hrest⟩ := bind_eq_ok_iff.1 h
    have hnext := step_eq_ok (hallowed name List.mem_cons_self)
      (fun heq => hup (heq ▸ List.mem_cons_self)) hstep
    have hplace := ih (fun n hn => hallowed n (List.mem_cons_of_mem _ hn))
      (fun hmem => hup (List.mem_cons_of_mem _ hmem)) hrest
    rw [hplace, hnext, List.append_assoc, ← List.map_append, ← List.filter_append,
      List.singleton_append]

theorem Usable.of_mem_names {name : Text} (h : Usable path) (hname : name ∈ Path.names path) :
    ∀ s ∈ name, Allowed s := by
  intro s hs
  exact h.allowed s (Path.mem_of_mem_names hname hs)

theorem eq_placeOf {parent : Place} {last : Text} {slash : Bool} (h : Path.Straight path)
    (hspot : tree.spot path = .ok (.name parent last slash)) : parent ++ [last] = placeOf path := by
  obtain ⟨husable, -, front, name, hnames, hdot, -, hwalk, rfl⟩ := names_of_spot hspot
  have hallowed : ∀ name ∈ front, ∀ s ∈ name, Allowed s := fun name hname =>
    husable.of_mem_names (hnames ▸ List.mem_append_left _ hname)
  have hup : parentName ∉ front := fun hmem => h (hnames ▸ List.mem_append_left _ hmem)
  rw [placeOf, hnames, List.filter_append, List.map_append, ← List.append_assoc,
    ← walk_eq_ok hallowed hup hwalk]
  simp [hdot]

/-! ## Changes at given places -/

/-- Nothing differs except at some places. -/
def ChangesOnly (places : List Place) (tree tree' : FileTree) : Prop :=
  ∀ place, place ∉ places → tree'.get? place = tree.get? place

theorem ChangesOnly.refl (places : List Place) (tree : FileTree) : ChangesOnly places tree tree :=
  fun _ _ => rfl

theorem ChangesOnly.trans {places : List Place} (h : ChangesOnly places tree tree')
    (h' : ChangesOnly places tree' tree'') : ChangesOnly places tree tree'' :=
  fun place hplace => (h' place hplace).trans (h place hplace)

theorem ChangesOnly.mono {places places' : List Place} (h : ChangesOnly places tree tree')
    (hsub : places ⊆ places') : ChangesOnly places' tree tree' :=
  fun place hplace => h place fun hmem => hplace (hsub hmem)

theorem changesOnly_put (tree : FileTree) {place : Place} (h : place ≠ []) (entry : Entry) :
    ChangesOnly [place] tree (tree.put place entry) := by
  intro place' hplace
  rw [get?_put_below tree h, if_neg fun heq => hplace (List.mem_singleton.2 heq)]

theorem changesOnly_erase (tree : FileTree) {place : Place} (h : place ≠ []) :
    ChangesOnly [place] tree (tree.erase place) := by
  intro place' hplace
  rw [get?_erase_below tree h, if_neg fun heq => hplace (List.mem_singleton.2 heq)]

theorem append_ne_nil (parent : Place) (name : Text) : parent ++ [name] ≠ [] := by simp

theorem changesOnly_write {mode : Nat} {content : Bytes} (h : Path.Straight path)
    (hwrite : tree.write path mode content = .ok tree') :
    ChangesOnly [placeOf path] tree tree' := by
  obtain ⟨parent, last, mode', hspot, -, rfl⟩ := write_eq_ok hwrite
  rw [← eq_placeOf h hspot]
  exact changesOnly_put tree (append_ne_nil _ _) _

theorem changesOnly_remove (h : Path.Straight path) (hremove : tree.remove path = .ok tree') :
    ChangesOnly [placeOf path] tree tree' := by
  rw [remove] at hremove
  split at hremove
  · cases hremove
  · cases hremove
  · next parent last slash hspot =>
    rw [← eq_placeOf h hspot]
    split at hremove
    · cases hremove
    · cases hremove
    · split at hremove
      · cases hremove
      · cases hremove
        exact changesOnly_erase tree (append_ne_nil _ _)

theorem changesOnly_replace {source target : Text} (hsource : Path.Straight source)
    (htarget : Path.Straight target) (hreplace : tree.replace source target = .ok tree') :
    ChangesOnly [placeOf target, placeOf source] tree tree' := by
  obtain ⟨parent, last, parent', last', _, _, horigin, -, hdestination, -, rfl⟩ :=
    replace_eq_ok hreplace
  rw [← eq_placeOf hsource horigin, ← eq_placeOf htarget hdestination]
  have herased := changesOnly_erase tree (append_ne_nil parent last)
  exact (herased.mono (by simp)).trans
    ((changesOnly_put _ (append_ne_nil parent' last') _).mono (by simp))

/-! ## New directories -/

/-- Nothing differs except that there are more directories on the way to a place. -/
def OpensWay (place : Place) (tree tree' : FileTree) : Prop :=
  ∀ place', tree'.get? place' = tree.get? place' ∨
    place' <+: place ∧ tree.get? place' = none ∧ ∃ mode, tree'.get? place' = some (.directory mode)

theorem OpensWay.refl (place : Place) (tree : FileTree) : OpensWay place tree tree :=
  fun _ => .inl rfl

theorem OpensWay.trans {place : Place} (h : OpensWay place tree tree')
    (h' : OpensWay place tree' tree'') : OpensWay place tree tree'' := by
  intro place'
  rcases h place', h' place' with ⟨heq | ⟨hway, hnone, mode, hmade⟩, heq' | ⟨hway', hnone', hmade'⟩⟩
  · exact .inl (heq'.trans heq)
  · exact .inr ⟨hway', heq ▸ hnone', hmade'⟩
  · exact .inr ⟨hway, hnone, mode, heq'.trans hmade⟩
  · rw [hmade] at hnone'
    cases hnone'

theorem OpensWay.mono {place place' : Place} (h : OpensWay place tree tree')
    (hway : place <+: place') : OpensWay place' tree tree' :=
  fun p => (h p).imp id fun ⟨hp, hnew⟩ => ⟨hp.trans hway, hnew⟩

theorem opensWay_makeDirectory {mode : Nat} (h : Path.Straight path)
    (hmade : tree.makeDirectory path mode = .ok tree') : OpensWay (placeOf path) tree tree' := by
  obtain ⟨parent, last, slash, hspot, hnone, rfl⟩ := makeDirectory_eq_ok hmade
  rw [← eq_placeOf h hspot]
  intro place'
  rw [get?_put_below tree (append_ne_nil _ _)]
  by_cases heq : place' = parent ++ [last]
  · rw [if_pos heq, heq]
    exact .inr ⟨List.prefix_refl _, hnone, _, rfl⟩
  · rw [if_neg heq]
    exact .inl rfl

theorem Straight.around {path : Text} (h : Path.Straight path) :
    Path.Straight (around path).1 := by
  obtain ⟨-, hnames⟩ := around_spec path
  intro hmem
  refine h ?_
  rw [hnames]
  exact List.mem_append_left _ hmem

theorem placeOf_around {path : Text} (h : (around path).1 ≠ []) :
    placeOf (around path).1 <+: placeOf path := by
  obtain ⟨hfront, hnames⟩ := around_spec path
  rw [placeOf, placeOf, start_of_front hfront h, hnames, List.filter_append, List.map_append,
    ← List.append_assoc]
  exact List.prefix_append _ _

theorem opensWay_makeDirectoriesFrom (limits : Limits) (tree : FileTree) (h : Path.Straight path)
    (mode fuel : Nat) :
    OpensWay (placeOf path) tree (tree.makeDirectoriesFrom limits path mode fuel).1 :=
  related_makeDirectoriesFrom
    (P := fun path' => Path.Straight path' ∧ placeOf path' <+: placeOf path)
    (OpensWay.refl _) OpensWay.trans
    (fun hpath hmade => (opensWay_makeDirectory hpath.1 hmade).mono hpath.2)
    (fun _ hpath hne _ => ⟨Straight.around hpath.1, (placeOf_around hne).trans hpath.2⟩)
    tree ⟨h, List.prefix_refl _⟩

/-- Nothing differs except at some places and in new directories above them. -/
def ChangesNear (places : List Place) (tree tree' : FileTree) : Prop :=
  ∀ place, place ∉ places → tree'.get? place = tree.get? place ∨
    (∃ below ∈ places, place <+: below) ∧ tree.get? place = none ∧
      ∃ mode, tree'.get? place = some (.directory mode)

theorem ChangesNear.of_opensWay {way : Place} {places : List Place} (h : OpensWay way tree tree')
    (hbelow : ∃ below ∈ places, way <+: below) (h' : ChangesOnly places tree' tree'') :
    ChangesNear places tree tree'' := by
  intro place hplace
  rw [h' place hplace]
  rcases h place with heq | ⟨hway, hnew⟩
  · exact .inl heq
  · obtain ⟨below, hmem, hway'⟩ := hbelow
    exact .inr ⟨⟨below, hmem, hway.trans hway'⟩, hnew⟩

theorem ChangesOnly.changesNear {places : List Place} (h : ChangesOnly places tree tree') :
    ChangesNear places tree tree' :=
  fun place hplace => .inl (h place hplace)

theorem ChangesNear.refl (places : List Place) (tree : FileTree) : ChangesNear places tree tree :=
  (ChangesOnly.refl places tree).changesNear

end FileTree

open FileTree

/-! ## The store file -/

namespace StoreFile

variable {tree : FileTree} {path : Text}

theorem straight_folder (h : Path.Straight path) : Path.Straight (folder path) := by
  rw [folder]
  split
  · exact show parentName ∉ Path.names (Text.ofString ".") by decide
  · exact h.directory

theorem placeOf_folder (path : Text) : placeOf (folder path) <+: placeOf path := by
  rw [folder]
  by_cases hempty : Path.directory path = []
  · rw [if_pos (List.isEmpty_iff.2 hempty)]
    have hdot : placeOf (Text.ofString ".") = [] := by decide
    rw [hdot]
    exact List.nil_prefix
  · obtain ⟨hfront, -, hnames⟩ := Path.split_spec path
    have hstart : start (Path.directory path) = start path := start_of_front hfront hempty
    rw [if_neg fun h => hempty (List.isEmpty_iff.1 h), placeOf, placeOf, hstart, hnames,
      List.filter_append, List.map_append, ← List.append_assoc]
    exact List.prefix_append _ _

theorem plain_staging (h : Path.Plain path) : Path.Plain (stagingPath path) := by
  have hends := endsInName_staging path
  refine ⟨hends, ?_⟩
  rw [Path.Straight, hends.names, directory_staging, List.mem_append, List.mem_singleton]
  rintro (hmem | hlast)
  · exact h.straight.directory hmem
  · exact hends.ne_dots hlast.symm

/-- The places that storing a credential can change. -/
def places (path : Text) : List Place := [placeOf path, placeOf (stagingPath path)]

theorem changesOnly_write (tree : FileTree) (h : Path.Plain path) (members : Members) :
    ChangesOnly (places path) (tree.makeDirectories (folder path) 0o700).1
      (write tree path members).1 := by
  have hstaged {made staged : FileTree} {content : Bytes}
      (hwrite : made.write (stagingPath path) 0o600 content = .ok staged) :
      ChangesOnly (places path) made staged :=
    (FileTree.changesOnly_write (plain_staging h).straight hwrite).mono (by simp [places])
  have hends := ends_write tree path members
  generalize write tree path members = result at hends ⊢
  cases hends with
  | unmade hmade =>
    rw [hmade]
    exact .refl _ _
  | unstaged hmade _ =>
    rw [hmade]
    exact .refl _ _
  | unmoved hmade hwrite _ =>
    rw [hmade]
    exact hstaged hwrite
  | done hmade hwrite hreplace =>
    rw [hmade]
    exact (hstaged hwrite).trans
      (changesOnly_replace (plain_staging h).straight h.straight hreplace)

theorem changesNear_save (h : Path.Plain path) (c : StoredCredential) :
    ChangesNear (places path) tree (save tree path c).1 := by
  rw [save_def]
  split
  · exact .refl _ _
  · exact .of_opensWay (opensWay_makeDirectoriesFrom {} tree (straight_folder h.straight) _ _)
      ⟨_, List.mem_cons_self, placeOf_folder path⟩ (changesOnly_write tree h _)

/-- Where something stands at the path of a store file, the directories above it are there. -/
theorem makeDirectories_of_stat {entry : Entry} (limits : Limits) (h : Path.EndsInName path)
    (hstat : tree.stat path = .ok entry) :
    (tree.makeDirectoriesWithin limits (folder path) 0o700).1 = tree := by
  rw [stat] at hstat
  obtain ⟨spot, hspot, -⟩ := bind_eq_ok_iff.1 hstat
  have husable := usable_of_spot hspot
  rw [spot_concat tree husable h.names] at hspot
  obtain ⟨place, hwalk, -⟩ := bind_eq_ok_iff.1 hspot
  rw [← walk_folder] at hwalk
  exact makeDirectoriesWithin_of_pathExists limits
    (pathExists_of_walk (usable_folder husable) hwalk) 0o700

theorem exists_stat_of_read {members : Members} (hread : read tree path = .ok members) :
    ∃ mode content, tree.stat path = .ok (.file mode content) := by
  obtain ⟨t, ht, -⟩ := readJson_eq_ok_iff.1 (readJson_of_read hread)
  obtain ⟨mode, content, text, hstat, -, -⟩ := readText_eq_ok ht
  exact ⟨mode, content, hstat⟩

theorem changesOnly_erase (h : Path.Plain path) :
    ChangesOnly (places path) tree (remove tree path).1 := by
  rw [remove_def]
  split
  · exact .refl _ _
  · exact .refl _ _
  · next members hread =>
    split
    · exact .refl _ _
    · exact .refl _ _
    · have hwrite := changesOnly_write tree h (members.erase key)
      obtain ⟨mode, content, hstat⟩ := exists_stat_of_read hread
      rw [makeDirectories, makeDirectories_of_stat {} h.endsInName hstat] at hwrite
      rcases hwritten : write tree path (members.erase key) with ⟨written, f | _⟩
      · rw [hwritten] at hwrite
        exact hwrite
      · rw [hwritten] at hwrite
        exact hwrite

end StoreFile

/-! ## The user's configuration file -/

namespace UserFile

variable {tree : FileTree} {path : Text}

theorem changesNear_write (h : Path.Plain path) (v : Json) :
    ChangesNear [placeOf path] tree (write tree path v).1 := by
  have hway := opensWay_makeDirectoriesFrom {} tree (StoreFile.straight_folder h.straight) 0o777
    ((StoreFile.folder path).length + 1)
  have hbelow : ∃ below ∈ [placeOf path], placeOf (StoreFile.folder path) <+: below :=
    ⟨_, List.mem_singleton_self _, StoreFile.placeOf_folder path⟩
  have hmade : tree.makeDirectories
      (if (Path.directory path).isEmpty then "." else Path.directory path) 0o777 =
      tree.makeDirectoriesFrom {} (StoreFile.folder path) 0o777
        ((StoreFile.folder path).length + 1) := rfl
  rw [write, hmade]
  rcases hmake : tree.makeDirectoriesFrom {} (StoreFile.folder path) 0o777
    ((StoreFile.folder path).length + 1) with ⟨made, e | _⟩
  · rw [hmake] at hway
    exact .of_opensWay hway hbelow (.refl _ _)
  · rw [hmake] at hway
    dsimp only
    split
    · exact .of_opensWay hway hbelow (.refl _ _)
    · next hwrite => exact .of_opensWay hway hbelow (changesOnly_write h.straight hwrite)

theorem changesNear_setSources (h : Path.Plain path) (sources : List Text) :
    ChangesNear [placeOf path] tree (setSources tree path sources).1 := by
  rw [setSources]
  split
  · exact .refl _ _
  · exact changesNear_write h _

theorem changesOnly_remove (h : Path.Straight path) :
    ChangesOnly [placeOf path] tree (remove tree path).1 := by
  rw [remove]
  split
  · split
    · next hremove => exact FileTree.changesOnly_remove h hremove
    · exact .refl _ _
  · exact .refl _ _

end UserFile

end CredentialHelper
