import CredentialHelper.Host.FileTree
import CredentialHelper.Proofs.FileName
import CredentialHelper.Proofs.Path

/-!
# Where paths lead

A path leads to a directory when each of its names does (`walk`).  A change that keeps the
directories of a tree keeps every such walk, and so the place of every path through them.
-/

namespace CredentialHelper

namespace FileTree

open FileName

/-- A path that the system takes: not empty, of symbols that can stand in names, not too long. -/
structure Usable (path : Text) : Prop where
  ne_nil : path ≠ []
  allowed : ∀ s ∈ path, Allowed s
  size_lt : size path < 4096

def walk (tree : FileTree) (place : Place) (names : List Text) : Except Errno Place :=
  (names.map canonical).foldlM (step tree) place

theorem walk_append (tree : FileTree) (place : Place) (as bs : List Text) :
    tree.walk place (as ++ bs) = (tree.walk place as).bind fun place' => tree.walk place' bs := by
  rw [walk, List.map_append, List.foldlM_append]
  rfl

theorem walk_singleton (tree : FileTree) (place : Place) (name : Text) :
    tree.walk place [name] = step tree place (canonical name) := by
  rw [walk, List.map_singleton, List.foldlM_cons]
  cases step tree place (canonical name) <;> rfl

def lastSpot (path last : Text) (parent : Place) : Except Errno Spot :=
  if last = "." then .ok (.directory parent)
  else if last = parentName then .ok (.directory (parentOf parent))
  else if 255 < size last then .error .nameTooLong
  else .ok (.name parent last (path.getLast? == some Path.slash))

theorem Usable.guard {path : Text} (h : Usable path) :
    (path.isEmpty || !(encode path).isOk) = false := by
  rw [encode_eq_ok h.allowed, List.isEmpty_eq_false_iff.2 h.ne_nil]
  rfl

theorem usable_dot : Usable "." := by
  refine ⟨by decide, fun s hs => ?_, by decide⟩
  rw [List.mem_singleton.1 hs]
  exact fun h => absurd h (by decide)

theorem spot_of_names_nil (tree : FileTree) {path : Text} (h : Usable path)
    (hnames : Path.names path = []) : tree.spot path = .ok (.directory (start path)) := by
  rw [spot, h.guard, if_neg Bool.false_ne_true, if_neg (Nat.not_le.2 h.size_lt), hnames]
  rfl

theorem spot_concat (tree : FileTree) {path last : Text} {front : List Text} (h : Usable path)
    (hnames : Path.names path = front ++ [last]) :
    tree.spot path = (tree.walk (start path) front).bind (lastSpot path (canonical last)) := by
  rw [spot, h.guard, if_neg Bool.false_ne_true, if_neg (Nat.not_le.2 h.size_lt), hnames]
  simp only [List.map_append, List.map_singleton, List.getLast?_concat, List.dropLast_concat]
  rfl

theorem usable_of_spot {tree : FileTree} {path : Text} {spot : Spot}
    (h : tree.spot path = .ok spot) : Usable path := by
  rw [FileTree.spot] at h
  split at h
  · cases h
  · next hcond =>
    split at h
    · cases h
    · next hsize =>
      rw [Bool.not_eq_true, Bool.or_eq_false_iff, Bool.not_eq_false'] at hcond
      obtain ⟨hne, hencode⟩ := hcond
      refine ⟨List.isEmpty_eq_false_iff.1 hne, ?_, Nat.not_le.1 hsize⟩
      cases henc : encode path with
      | error e =>
        rw [henc] at hencode
        cases hencode
      | ok bytes => exact (encode_eq_ok_iff.1 henc).1

theorem usable_of_stat {tree : FileTree} {path : Text} {entry : Entry}
    (h : tree.stat path = .ok entry) : Usable path := by
  rw [stat] at h
  cases hspot : tree.spot path with
  | error e =>
    rw [hspot] at h
    cases h
  | ok spot => exact usable_of_spot hspot

def enter (tree : FileTree) : Spot → Except Errno Place
  | .directory place => .ok place
  | .name parent last _ =>
    match tree.get? (parent ++ [last]) with
    | some (.directory _) => .ok (parent ++ [last])
    | some (.file _ _) => .error .notDirectory
    | none => .error .notFound

theorem step_eq (tree : FileTree) (path last : Text) (parent : Place) :
    tree.step parent last = (lastSpot path last parent).bind tree.enter := by
  rw [step, lastSpot]
  by_cases hdot : last = "."
  · rw [if_pos hdot, if_pos hdot]
    rfl
  · rw [if_neg hdot, if_neg hdot]
    by_cases hdots : last = parentName
    · rw [if_pos hdots, if_pos hdots]
      rfl
    · rw [if_neg hdots, if_neg hdots]
      by_cases hsize : 255 < size last
      · rw [if_pos hsize, if_pos hsize]
        rfl
      · rw [if_neg hsize, if_neg hsize]
        rfl

theorem bind_eq_ok_iff {ε α β : Type} {r : Except ε α} {f : α → Except ε β} {b : β} :
    r.bind f = .ok b ↔ ∃ a, r = .ok a ∧ f a = .ok b := by
  cases r with
  | error e => simp [Except.bind]
  | ok a => simp [Except.bind]

theorem lastSpot_eq_name {path last last' : Text} {parent parent' : Place} {slash : Bool}
    (h : lastSpot path last parent = .ok (.name parent' last' slash)) :
    last ≠ "." ∧ last ≠ parentName ∧ parent' = parent ∧ last' = last ∧
      slash = (path.getLast? == some Path.slash) := by
  rw [lastSpot] at h
  split at h
  · cases h
  · next hdot =>
    split at h
    · cases h
    · next hdots =>
      split at h
      · cases h
      · cases h
        exact ⟨hdot, hdots, rfl, rfl, rfl⟩

theorem names_of_spot {tree : FileTree} {path last : Text} {parent : Place} {slash : Bool}
    (h : tree.spot path = .ok (.name parent last slash)) :
    Usable path ∧ slash = (path.getLast? == some Path.slash) ∧
      ∃ front name, Path.names path = front ++ [name] ∧
        name ≠ Text.ofString "." ∧ name ≠ parentName ∧
        tree.walk (start path) front = .ok parent ∧ last = canonical name := by
  have husable := usable_of_spot h
  rcases List.eq_nil_or_concat (Path.names path) with hnames | ⟨front, name, hnames⟩
  · rw [spot_of_names_nil tree husable hnames] at h
    cases h
  · rw [List.concat_eq_append] at hnames
    rw [spot_concat tree husable hnames] at h
    obtain ⟨parent', hwalk, hlast⟩ := bind_eq_ok_iff.1 h
    obtain ⟨hdot, hdots, rfl, rfl, hslash⟩ := lastSpot_eq_name hlast
    refine ⟨husable, hslash, front, name, hnames, ?_, ?_, hwalk, rfl⟩
    · rintro rfl
      exact hdot (canonical_map_char (by decide))
    · rintro rfl
      exact hdots (canonical_map_char (by decide))

theorem endsInName_of_spot {tree : FileTree} {path last : Text} {parent : Place}
    (h : tree.spot path = .ok (.name parent last false)) : Path.EndsInName path := by
  obtain ⟨husable, hslash, front, name, hnames, hdot, hdots, -⟩ := names_of_spot h
  have hne := Path.split_ne_nil husable.ne_nil (beq_eq_false_iff_ne.1 hslash.symm)
  rw [Path.names_split hne] at hnames
  obtain rfl := List.singleton_inj.1 (List.append_inj_right' hnames rfl)
  exact ⟨hne, hdot, hdots⟩

theorem walk_eq (tree : FileTree) {path : Text} (h : Usable path) :
    tree.walk (start path) (Path.names path) = (tree.spot path).bind tree.enter := by
  rcases List.eq_nil_or_concat (Path.names path) with hnames | ⟨front, last, hnames⟩
  · rw [spot_of_names_nil tree h hnames, hnames]
    rfl
  · rw [List.concat_eq_append] at hnames
    rw [spot_concat tree h hnames, hnames, walk_append]
    cases tree.walk (start path) front with
    | error e => rfl
    | ok parent =>
      show tree.walk parent [last] = (lastSpot path (canonical last) parent).bind tree.enter
      rw [walk_singleton, step_eq tree path]

/-- A path whose names all lead on is there, and it is a directory unless a file is at its end. -/
theorem stat_of_walk {tree : FileTree} {path : Text} {place : Place} (h : Usable path)
    (hwalk : tree.walk (start path) (Path.names path) = .ok place) :
    tree.stat path = .ok ((tree.get? place).getD (.directory 0o755)) := by
  rw [walk_eq tree h, bind_eq_ok_iff] at hwalk
  obtain ⟨spot, hspot, hplace⟩ := hwalk
  rw [stat, hspot]
  cases spot with
  | directory place =>
    cases hplace
    rfl
  | name parent last slash =>
    rw [enter] at hplace
    split at hplace
    · next mode hentry =>
      cases hplace
      simp only [bind, Except.bind, hentry]
      rfl
    · cases hplace
    · cases hplace

theorem pathExists_of_walk {tree : FileTree} {path : Text} {place : Place} (h : Usable path)
    (hwalk : tree.walk (start path) (Path.names path) = .ok place) :
    tree.pathExists path = true := by
  rw [pathExists, stat_of_walk h hwalk]
  rfl

theorem exists_enter_of_isDirectory {tree : FileTree} {path : Text}
    (h : tree.isDirectory path = true) :
    ∃ spot place, tree.spot path = .ok spot ∧ tree.enter spot = .ok place := by
  rw [isDirectory] at h
  split at h
  · next mode hstat =>
    rw [stat] at hstat
    obtain ⟨spot, hspot, hentry⟩ := bind_eq_ok_iff.1 hstat
    cases spot with
    | directory place => exact ⟨_, place, hspot, rfl⟩
    | name parent last slash =>
      refine ⟨_, parent ++ [last], hspot, ?_⟩
      dsimp only at hentry
      rw [enter]
      split at hentry
      · cases hentry
      · split at hentry <;> cases hentry
      · next e hget =>
        cases hentry
        rw [hget]
  · cases h

theorem walk_of_isDirectory {tree : FileTree} {path : Text} (h : tree.isDirectory path = true) :
    Usable path ∧ ∃ place, tree.walk (start path) (Path.names path) = .ok place := by
  obtain ⟨spot, place, hspot, hplace⟩ := exists_enter_of_isDirectory h
  have husable := usable_of_spot hspot
  refine ⟨husable, place, ?_⟩
  rw [walk_eq tree husable, hspot]
  exact hplace

/-! ## Changes below the root -/

theorem get?_put_below (tree : FileTree) {place : Place} (h : place ≠ []) (entry : Entry)
    (place' : Place) : (tree.put place entry).get? place' =
      if place' = place then some entry else tree.get? place' := by
  by_cases hnil : place' = []
  · rw [if_neg fun heq => h (heq.symm.trans hnil), hnil]
    rfl
  · exact get?_put tree place place' entry hnil

theorem get?_erase_below (tree : FileTree) {place : Place} (h : place ≠ []) (place' : Place) :
    (tree.erase place).get? place' = if place' = place then none else tree.get? place' := by
  by_cases hnil : place' = []
  · rw [if_neg fun heq => h (heq.symm.trans hnil), hnil]
    rfl
  · exact get?_erase tree place place' hnil

/-! ## Trees with the same directories -/

/-- Every directory of the first tree is one of the second. -/
def KeepsDirectories (tree tree' : FileTree) : Prop :=
  ∀ place mode, tree.get? place = some (.directory mode) →
    tree'.get? place = some (.directory mode)

variable {tree tree' : FileTree}

theorem KeepsDirectories.enter (h : KeepsDirectories tree tree') {spot : Spot} {place : Place}
    (hplace : tree.enter spot = .ok place) : tree'.enter spot = .ok place := by
  cases spot with
  | directory place => exact hplace
  | name parent last slash =>
    rw [FileTree.enter] at hplace ⊢
    split at hplace
    · next mode hentry =>
      cases hplace
      rw [h _ _ hentry]
    · cases hplace
    · cases hplace

theorem KeepsDirectories.step (h : KeepsDirectories tree tree') {place place' : Place}
    {name : Text} (hstep : tree.step place name = .ok place') :
    tree'.step place name = .ok place' := by
  rw [step_eq tree name, bind_eq_ok_iff] at hstep
  obtain ⟨spot, hspot, hplace⟩ := hstep
  rw [step_eq tree' name, hspot]
  exact h.enter hplace

theorem KeepsDirectories.walk (h : KeepsDirectories tree tree') {place place' : Place}
    {names : List Text} (hwalk : tree.walk place names = .ok place') :
    tree'.walk place names = .ok place' := by
  induction names generalizing place with
  | nil => exact hwalk
  | cons name names ih =>
    rw [← List.singleton_append, walk_append, walk_singleton] at hwalk ⊢
    cases hstep : tree.step place (canonical name) with
    | error e =>
      rw [hstep] at hwalk
      cases hwalk
    | ok next =>
      rw [hstep] at hwalk
      rw [h.step hstep]
      exact ih hwalk

/-- A path leads to the same place as long as the directories stay. -/
theorem KeepsDirectories.spot (h : KeepsDirectories tree tree') {path : Text} {spot : Spot}
    (hspot : tree.spot path = .ok spot) : tree'.spot path = .ok spot := by
  have husable := usable_of_spot hspot
  rcases List.eq_nil_or_concat (Path.names path) with hnames | ⟨front, last, hnames⟩
  · rw [spot_of_names_nil tree husable hnames] at hspot
    rw [spot_of_names_nil tree' husable hnames, hspot]
  · rw [List.concat_eq_append] at hnames
    rw [spot_concat tree husable hnames] at hspot
    rw [spot_concat tree' husable hnames]
    cases hfront : tree.walk (start path) front with
    | error e =>
      rw [hfront] at hspot
      cases hspot
    | ok parent =>
      rw [hfront] at hspot
      rw [h.walk hfront]
      exact hspot

/-- A directory stays one if the directories stay and nothing is put in its place. -/
theorem KeepsDirectories.isDirectory (h : KeepsDirectories tree tree') {path : Text} {place : Place}
    (husable : Usable path) (hwalk : tree.walk (start path) (Path.names path) = .ok place)
    (hplace : tree'.get? place = tree.get? place) (hdirectory : tree.isDirectory path = true) :
    tree'.isDirectory path = true := by
  rw [FileTree.isDirectory, stat_of_walk husable (h.walk hwalk), hplace]
  rwa [FileTree.isDirectory, stat_of_walk husable hwalk] at hdirectory

/-! ## What is found after a change -/

variable {path : Text} {parent : Place}

theorem keepsDirectories_put {place : Place} (hne : place ≠ [])
    (h : ∀ mode, tree.get? place ≠ some (.directory mode)) (mode : Nat) (content : Bytes) :
    KeepsDirectories tree (tree.put place (.file mode content)) := by
  intro place' mode' hentry
  rw [get?_put_below tree hne, if_neg, hentry]
  rintro rfl
  exact h mode' hentry

theorem stat_of_name {last : Text} {mode : Nat} {content : Bytes}
    (hspot : tree.spot path = .ok (.name parent last false))
    (hentry : tree.get? (parent ++ [last]) = some (.file mode content)) :
    tree.stat path = .ok (.file mode content) := by
  rw [stat, hspot]
  simp only [bind, Except.bind, hentry]
  rfl

theorem stat_of_none {last : Text} {slash : Bool}
    (hspot : tree.spot path = .ok (.name parent last slash))
    (h : tree.get? (parent ++ [last]) = none) : tree.stat path = .error .notFound := by
  rw [stat, hspot]
  simp only [bind, Except.bind, h]
  rfl

theorem stat_of_directory {last : Text} {mode : Nat} {slash : Bool}
    (hspot : tree.spot path = .ok (.name parent last slash))
    (hentry : tree.get? (parent ++ [last]) = some (.directory mode)) :
    tree.stat path = .ok (.directory mode) := by
  rw [stat, hspot]
  simp only [bind, Except.bind, hentry]
  rfl

theorem read_of_stat {mode : Nat} {content : Bytes}
    (h : tree.stat path = .ok (.file mode content)) : tree.read path = .ok content := by
  rw [read, h]

theorem write_eq_ok {mode : Nat} {content : Bytes}
    (h : tree.write path mode content = .ok tree') :
    ∃ parent last mode', tree.spot path = .ok (.name parent last false) ∧
      (tree.get? (parent ++ [last]) = none ∧ mode' = masked mode ∨
        ∃ old, tree.get? (parent ++ [last]) = some (.file mode' old)) ∧
      tree' = tree.put (parent ++ [last]) (.file mode' content) := by
  rw [write] at h
  split at h
  · cases h
  · cases h
  · next parent last slash hspot =>
    split at h
    · cases h
    · next hslash =>
      rw [Bool.not_eq_true] at hslash
      subst hslash
      split at h
      · cases h
      · next own old hentry =>
        cases h
        exact ⟨parent, last, own, hspot, .inr ⟨old, hentry⟩, rfl⟩
      · next hnone =>
        cases h
        exact ⟨parent, last, masked mode, hspot, .inl ⟨hnone, rfl⟩, rfl⟩

theorem keepsDirectories_write {mode : Nat} {content : Bytes}
    (h : tree.write path mode content = .ok tree') : KeepsDirectories tree tree' := by
  obtain ⟨parent, last, mode', -, hold, rfl⟩ := write_eq_ok h
  refine keepsDirectories_put (by simp) (fun mode'' => ?_) mode' content
  rcases hold with ⟨hnone, -⟩ | ⟨old, hentry⟩
  · rw [hnone]
    nofun
  · rw [hentry]
    nofun

/-- Writing does not turn a file into a directory. -/
theorem isDirectory_of_write {target : Text} {mode mode' : Nat} {content old : Bytes}
    (h : tree.write target mode content = .ok tree')
    (hstat : tree.stat path = .ok (.file mode' old)) : tree'.isDirectory path = false := by
  have hkeeps := keepsDirectories_write h
  obtain ⟨parent, last, own, -, -, rfl⟩ := write_eq_ok h
  have hput (place : Place) := get?_put_below tree (by simp : parent ++ [last] ≠ [])
    (.file own content) place
  rw [stat] at hstat
  obtain ⟨spot, hspot, hentry⟩ := bind_eq_ok_iff.1 hstat
  rw [isDirectory, stat, hkeeps.spot hspot]
  cases spot with
  | directory place =>
    dsimp only [bind, Except.bind]
    rw [hput]
    by_cases hplace : place = parent ++ [last]
    · rw [if_pos hplace]
      rfl
    · rw [if_neg hplace, Except.ok.inj hentry]
      rfl
  | name parent' last' slash =>
    dsimp only [bind, Except.bind] at hentry ⊢
    rw [hput]
    by_cases hplace : parent' ++ [last'] = parent ++ [last]
    · rw [if_pos hplace]
      cases slash <;> rfl
    · rw [if_neg hplace, hentry]

theorem entry_of_write {mode : Nat} {content : Bytes}
    (h : tree.write path mode content = .ok tree') :
    ∃ parent last mode', tree'.spot path = .ok (.name parent last false) ∧
      tree'.get? (parent ++ [last]) = some (.file mode' content) := by
  have hkeeps := keepsDirectories_write h
  obtain ⟨parent, last, mode', hspot, -, rfl⟩ := write_eq_ok h
  exact ⟨parent, last, mode', hkeeps.spot hspot,
    (get?_put_below tree (by simp) _ _).trans (if_pos rfl)⟩

theorem replace_eq_ok {source target : Text} (h : tree.replace source target = .ok tree') :
    ∃ parent last parent' last' mode content,
      tree.spot source = .ok (.name parent last false) ∧
      tree.get? (parent ++ [last]) = some (.file mode content) ∧
      tree.spot target = .ok (.name parent' last' false) ∧
      (∀ mode, tree.get? (parent' ++ [last']) ≠ some (.directory mode)) ∧
      tree' = (tree.erase (parent ++ [last])).put (parent' ++ [last']) (.file mode content) := by
  rw [replace] at h
  dsimp only at h
  split at h
  · cases h
  · next origin horigin =>
    split at h
    · cases h
    · next destination hdestination =>
      split at h
      · next parent last slash parent' last' slash' =>
        split at h
        · cases h
        · cases h
        · next mode content hentry =>
          split at h
          · cases h
          · next hslash =>
            rw [Bool.or_eq_true, not_or, Bool.not_eq_true, Bool.not_eq_true] at hslash
            obtain ⟨rfl, rfl⟩ := hslash
            split at h
            · cases h
            · next hnot =>
              cases h
              exact ⟨parent, last, parent', last', mode, content, horigin, hentry, hdestination,
                hnot, rfl⟩
      · cases h

theorem directory_of_replace {source target last last' : Text} {parent' : Place} {mode : Nat}
    {content : Bytes} {e : SystemError} (hsource : tree.spot source = .ok (.name parent last false))
    (hentry : tree.get? (parent ++ [last]) = some (.file mode content))
    (htarget : tree.spot target = .ok (.name parent' last' false))
    (h : tree.replace source target = .error e) :
    ∃ mode', tree.get? (parent' ++ [last']) = some (.directory mode') := by
  rw [replace, hsource, htarget] at h
  dsimp only at h
  rw [hentry] at h
  dsimp only at h
  rw [if_neg (by decide)] at h
  split at h
  · next mode' hdirectory => exact ⟨mode', hdirectory⟩
  · cases h

theorem keepsDirectories_replace {source target : Text}
    (h : tree.replace source target = .ok tree') : KeepsDirectories tree tree' := by
  obtain ⟨parent, last, parent', last', mode, content, -, hentry, -, hnot, rfl⟩ := replace_eq_ok h
  intro place mode' hdirectory
  rw [get?_put_below _ (by simp), if_neg, get?_erase_below tree (by simp), if_neg, hdirectory]
  · rintro rfl
    cases hentry.symm.trans hdirectory
  · rintro rfl
    exact hnot mode' hdirectory

theorem stat_of_replace {source last : Text} {mode : Nat} {content : Bytes}
    (h : tree.replace source path = .ok tree')
    (hspot : tree.spot source = .ok (.name parent last false))
    (hentry : tree.get? (parent ++ [last]) = some (.file mode content)) :
    tree'.stat path = .ok (.file mode content) := by
  have hkeeps := keepsDirectories_replace h
  obtain ⟨_, _, parent', last', _, _, hsource, hmoved, htarget, -, rfl⟩ := replace_eq_ok h
  cases hspot.symm.trans hsource
  cases hentry.symm.trans hmoved
  exact stat_of_name (hkeeps.spot htarget) ((get?_put_below _ (by simp) _ _).trans (if_pos rfl))

/-! ## Directories that are there -/

theorem start_of_front {path front : Text} (h : front <+: path) (hne : front ≠ []) :
    start front = start path := by
  obtain ⟨s, front, rfl⟩ := List.exists_cons_of_ne_nil hne
  obtain ⟨rest, rfl⟩ := h
  rfl

theorem usable_of_front {path front : Text} (h : Usable path) (hfront : front <+: path)
    (hne : front ≠ []) : Usable front := by
  refine ⟨hne, fun s hs => h.allowed s (hfront.subset hs), ?_⟩
  obtain ⟨rest, rfl⟩ := hfront
  have hlt := h.size_lt
  rw [size, List.flatMap_append, List.length_append] at hlt
  rw [size]
  omega

theorem around_spec (path : Text) :
    (around path).1 <+: path ∧
      Path.names path = Path.names (around path).1 ++ Path.names (around path).2 := by
  have hspec := Path.split_spec path
  rw [around]
  rcases hsplit : Path.split path with ⟨head, tail⟩
  rw [hsplit] at hspec
  obtain ⟨hfront, -, hnames⟩ := hspec
  dsimp only at hfront hnames ⊢
  by_cases hempty : tail = []
  · obtain ⟨hfront', -, hnames'⟩ := Path.split_spec head
    rw [if_pos (List.isEmpty_iff.2 hempty), ← hnames', hnames, hempty]
    exact ⟨hfront'.trans hfront, List.append_nil _⟩
  · rw [if_neg (fun h => hempty (List.isEmpty_iff.1 h))]
    exact ⟨hfront, hnames⟩

theorem pathExists_around {path : Text} {place : Place} (h : Usable path)
    (hwalk : tree.walk (start path) (Path.names path) = .ok place) (hne : (around path).1 ≠ []) :
    tree.pathExists (around path).1 = true := by
  obtain ⟨hfront, hnames⟩ := around_spec path
  rw [hnames, walk_append, bind_eq_ok_iff] at hwalk
  obtain ⟨place', hhead, -⟩ := hwalk
  rw [← start_of_front hfront hne] at hhead
  exact pathExists_of_walk (usable_of_front h hfront hne) hhead

theorem makeDirectory_of_walk {path : Text} {place : Place} (h : Usable path)
    (hwalk : tree.walk (start path) (Path.names path) = .ok place) (mode : Nat) :
    ∃ e, tree.makeDirectory path mode = .error e := by
  rw [walk_eq tree h, bind_eq_ok_iff] at hwalk
  obtain ⟨spot, hspot, hplace⟩ := hwalk
  rw [makeDirectory, hspot]
  cases spot with
  | directory place => exact ⟨_, rfl⟩
  | name parent last slash =>
    rw [enter] at hplace
    dsimp only
    split at hplace
    · next hentry =>
      rw [hentry]
      exact ⟨_, rfl⟩
    · cases hplace
    · cases hplace

theorem makeDirectories_of_walk {path : Text} {place : Place} (h : Usable path)
    (hwalk : tree.walk (start path) (Path.names path) = .ok place) (mode : Nat) :
    ∃ e, tree.makeDirectories path mode =
      (tree, if tree.isDirectory path then .ok () else .error e) := by
  obtain ⟨e, he⟩ := makeDirectory_of_walk h hwalk mode
  have hexists : (!(around path).1.isEmpty && !(around path).2.isEmpty &&
      !tree.pathExists (around path).1) = false := by
    by_cases hempty : (around path).1 = []
    · rw [hempty]
      rfl
    · rw [pathExists_around h hwalk hempty, Bool.not_true, Bool.and_false]
  refine ⟨e, ?_⟩
  rw [makeDirectories, makeDirectoriesWithin, makeDirectoriesFrom, ensureWithin,
    makeDirectoryWithin]
  dsimp only
  rw [Bool.not_false, Bool.true_and, Bool.true_and, hexists, if_neg Bool.false_ne_true, he]

theorem makeDirectories_of_isDirectory {path : Text} (h : tree.isDirectory path = true)
    (mode : Nat) : tree.makeDirectories path mode = (tree, .ok ()) := by
  obtain ⟨husable, place, hwalk⟩ := walk_of_isDirectory h
  obtain ⟨e, he⟩ := makeDirectories_of_walk husable hwalk mode
  rw [he, if_pos h]

/-- A path that ends in the name of a file leads to it, unless the name is too long. -/
theorem spot_eq_ite (h : Path.EndsInName path) (husable : Usable path)
    (hwalk : tree.walk (start path) (Path.names (Path.directory path)) = .ok parent) :
    tree.spot path = if 255 < size (Path.split path).2 then .error .nameTooLong
      else .ok (.name parent (canonical (Path.split path).2) false) := by
  have hallowed : ∀ s ∈ (Path.split path).2, Allowed s :=
    fun s hs => husable.allowed s ((Path.lastName_suffix path).subset hs)
  have hdot : canonical (Path.split path).2 ≠ Text.ofString "." :=
    canonical_ne hallowed (by decide) h.ne_dot
  have hdots : canonical (Path.split path).2 ≠ parentName :=
    canonical_ne hallowed (by decide) h.ne_dots
  have hslash : (path.getLast? == some Path.slash) = false :=
    beq_eq_false_iff_ne.2 (Path.getLast?_of_split h.ne_nil)
  rw [spot_concat tree husable h.names, hwalk]
  show lastSpot path (canonical (Path.split path).2) parent = _
  rw [lastSpot, if_neg hdot, if_neg hdots, size_canonical hallowed, hslash]

theorem spot_of_endsInName (h : Path.EndsInName path) (husable : Usable path)
    (hsize : size (Path.split path).2 ≤ 255)
    (hwalk : tree.walk (start path) (Path.names (Path.directory path)) = .ok parent) :
    tree.spot path = .ok (.name parent (canonical (Path.split path).2) false) := by
  rw [spot_eq_ite h husable hwalk, if_neg (Nat.not_lt.2 hsize)]

/-! ## Trees without files at the root -/

/-- No file stands at a place that a path reaches without a name of its own: at the root of all
places, or where one only steps up. -/
def Rooted (tree : FileTree) : Prop :=
  ∀ place, (place = [rootName] ∨ ∀ name ∈ place, name = parentName) →
    ∀ mode content, tree.get? place ≠ some (.file mode content)

/-- No file stands at a place or on the way to it. -/
def Passable (tree : FileTree) (place : Place) : Prop :=
  ∀ front, front <+: place → ∀ mode content, tree.get? front ≠ some (.file mode content)

theorem Rooted.passable_start (h : tree.Rooted) (path : Text) : tree.Passable (start path) := by
  intro front hfront
  apply h
  rw [start] at hfront
  split at hfront
  · rw [← List.nil_append [rootName], List.prefix_concat_iff, List.prefix_nil] at hfront
    rcases hfront with rfl | rfl
    · exact .inl rfl
    · exact .inr nofun
  · rw [List.prefix_nil] at hfront
    subst hfront
    exact .inr nofun

theorem Passable.parentOf (hrooted : tree.Rooted) {place : Place} (h : tree.Passable place) :
    tree.Passable (parentOf place) := by
  rw [FileTree.parentOf]
  split
  · exact h
  · split
    · next hall =>
      intro front hfront
      refine hrooted front (.inr fun name hname => ?_)
      rcases List.mem_append.1 (hfront.subset hname) with hmem | hmem
      · exact eq_of_beq (List.all_eq_true.1 hall name hmem)
      · exact List.mem_singleton.1 hmem
    · exact fun front hfront => h front (hfront.trans (List.dropLast_prefix place))

theorem Passable.step (hrooted : tree.Rooted) {place place' : Place} {name : Text}
    (h : tree.Passable place) (hstep : tree.step place name = .ok place') :
    tree.Passable place' := by
  rw [step_eq tree name, bind_eq_ok_iff] at hstep
  obtain ⟨spot, hspot, henter⟩ := hstep
  rw [lastSpot] at hspot
  split at hspot
  · cases hspot
    cases henter
    exact h
  · split at hspot
    · cases hspot
      cases henter
      exact h.parentOf hrooted
    · split at hspot
      · cases hspot
      · cases hspot
        rw [enter] at henter
        split at henter
        · next mode hentry =>
          cases henter
          intro front hfront
          rcases List.prefix_concat_iff.1 hfront with rfl | hfront
          · rw [hentry]
            nofun
          · exact h front hfront
        · cases henter
        · cases henter

theorem Passable.walk (hrooted : tree.Rooted) {place place' : Place} {names : List Text}
    (h : tree.Passable place) (hwalk : tree.walk place names = .ok place') :
    tree.Passable place' := by
  induction names generalizing place with
  | nil =>
    cases hwalk
    exact h
  | cons name names ih =>
    rw [← List.singleton_append, walk_append, walk_singleton, bind_eq_ok_iff] at hwalk
    obtain ⟨next, hstep, hrest⟩ := hwalk
    exact ih (h.step hrooted hstep) hrest

theorem Rooted.isDirectory_of_walk (h : tree.Rooted) {place : Place} (husable : Usable path)
    (hwalk : tree.walk (start path) (Path.names path) = .ok place) :
    tree.isDirectory path = true := by
  have hnone := (h.passable_start path).walk h hwalk place (List.prefix_refl place)
  rw [isDirectory, stat_of_walk husable hwalk]
  cases hentry : tree.get? place with
  | none => rfl
  | some entry =>
    cases entry with
    | file mode content => exact absurd hentry (hnone mode content)
    | directory mode => rfl

theorem rooted_empty : empty.Rooted := by
  intro place _ mode content hentry
  rw [get?] at hentry
  split at hentry <;> cases hentry

end FileTree

end CredentialHelper
