import CredentialHelper.Proofs.MadeDirectories
import CredentialHelper.Proofs.SharedFile
import Mathlib.Data.Fintype.Defs
import Mathlib.Data.Fintype.Sets
import Mathlib.Logic.Function.Basic

/-!
# Saves at the same time

A save reads the store file, stages the new content beside it and puts that in its place
(`StoreFile.Saves.run_alone`).  When two processes save at the same time their moves come in some
order, and both stage under the same path.  So the content of the one that stages last is what the
store file holds in the end, and a save whose staged content the other one puts in place finds
nothing to put there itself, and fails.  So does a save that reads the file when the other one has
made the directories of the path, if they lead to a file that was out of reach before and cannot be
read (`StoreFile.saves_interleaved`).
-/

namespace CredentialHelper

namespace StoreFile

/-! ## The moves of two saves -/

inductive Writer where
  | first
  | second
  deriving DecidableEq, Repr

instance : Fintype Writer := ⟨{.first, .second}, fun w => by cases w <;> decide⟩

def Writer.other : Writer → Writer
  | .first => .second
  | .second => .first

inductive Move where
  | read
  | stage
  | replace
  deriving DecidableEq, Repr

inductive Progress where
  | begun
  /-- The object is made that is to stand in the file. -/
  | loaded (members : Members)
  | staged
  | ended (r : Except Failure Unit)

def Writer.moves (w : Writer) : List (Writer × Move) := [(w, .read), (w, .stage), (w, .replace)]

/-- A move of a save.  Only the next one is made, and none after a failure. -/
def Progress.move (tree : FileTree) (path : Text) (c : StoredCredential) :
    Progress → Move → FileTree × Progress
  | .begun, .read =>
    match readOrEmpty tree path with
    | .error f => (tree, .ended (.error f))
    | .ok members => (tree, .loaded (members.insert key c.toJson))
  | .loaded members, .stage =>
    match StoreFile.stage tree path members with
    | (tree, .error e) => (tree, .ended (.error (refusal path e)))
    | (tree, .ok ()) => (tree, .staged)
  | .staged, .replace =>
    match commit tree path with
    | (tree, .error e) => (tree, .ended (.error (refusal path e)))
    | (tree, .ok ()) => (tree, .ended (.ok ()))
  | progress, _ => (tree, progress)

structure Saves where
  tree : FileTree
  progress : Writer → Progress

namespace Saves

def begin (tree : FileTree) : Saves := ⟨tree, fun _ => .begun⟩

def move (path : Text) (c : Writer → StoredCredential) (s : Saves) (m : Writer × Move) : Saves :=
  let after := (s.progress m.1).move s.tree path (c m.1) m.2
  ⟨after.1, Function.update s.progress m.1 after.2⟩

def run (path : Text) (c : Writer → StoredCredential) (s : Saves)
    (schedule : List (Writer × Move)) : Saves :=
  schedule.foldl (move path c) s

/-- The moves of one writer alone are a save. -/
theorem run_alone (tree : FileTree) (path : Text) (c : Writer → StoredCredential) (w : Writer) :
    ((begin tree).run path c w.moves).tree = (save tree path (c w)).1 ∧
      ((begin tree).run path c w.moves).progress w = .ended (save tree path (c w)).2 := by
  simp only [run, Writer.moves, List.foldl_cons, List.foldl_nil, move, begin,
    Function.update_self, Function.update_idem]
  rw [Progress.move, save_def]
  cases hread : readOrEmpty tree path with
  | error f => exact ⟨rfl, rfl⟩
  | ok members =>
    dsimp only
    rw [write_def, Progress.move]
    rcases hstage : StoreFile.stage tree path (members.insert key (c w).toJson) with ⟨staged, e | _⟩
    · exact ⟨rfl, rfl⟩
    · dsimp only
      rw [Progress.move]
      rcases hcommit : commit staged path with ⟨after, e | _⟩
      · exact ⟨rfl, rfl⟩
      · exact ⟨rfl, rfl⟩

end Saves

/-! ## Where two saves stand -/

/-- What the two saves have made of the files: nothing, or a content is staged, over the store file
as it was or over a content that was put in its place before, or one is in its place and none is
staged. -/
inductive Stand where
  | untouched
  | staged (w : Writer) (file : Option Writer)
  | moved (w : Writer)
  deriving DecidableEq

inductive Mark where
  | begun
  | loaded
  | staged
  | done
  /-- Nothing was there to put in the place of the file. -/
  | refused
  /-- A failure passed through reading the file. -/
  | unread
  deriving DecidableEq

namespace Stand

def stage (w : Writer) : Stand → Stand
  | .untouched => .staged w none
  | .staged _ file => .staged w file
  | .moved v => .staged w (some v)

def replace : Stand → Stand × Mark
  | .untouched => (.untouched, .refused)
  | .staged w _ => (.moved w, .done)
  | .moved w => (.moved w, .refused)

/-- The directory of the file is made, and nothing was put in place of what stands in it. -/
def uncovers : Stand → Bool
  | .staged _ none => true
  | _ => false

theorem stage_ne (w : Writer) (stand : Stand) : stand.stage w ≠ .untouched := by
  cases stand <;> exact nofun

theorem replace_ne {stand : Stand} (h : stand ≠ .untouched) : stand.replace.1 ≠ .untouched := by
  cases stand with
  | untouched => exact absurd rfl h
  | staged | moved => exact nofun

end Stand

structure Course where
  stand : Stand
  mark : Writer → Mark

namespace Course

def begin : Course := ⟨.untouched, fun _ => .begun⟩

def move (hidden : Bool) (o : Course) (m : Writer × Move) : Course :=
  match o.mark m.1, m.2 with
  | .begun, .read =>
    let mark := if hidden && o.stand.uncovers then Mark.unread else .loaded
    { o with mark := Function.update o.mark m.1 mark }
  | .loaded, .stage => ⟨o.stand.stage m.1, Function.update o.mark m.1 .staged⟩
  | .staged, .replace => ⟨o.stand.replace.1, Function.update o.mark m.1 o.stand.replace.2⟩
  | _, _ => o

def run (hidden : Bool) (o : Course) (schedule : List (Writer × Move)) : Course :=
  schedule.foldl (move hidden) o

end Course

variable {tree made now after : FileTree} {path : Text} {parent place : Place}
  {c : Writer → StoredCredential} {members : Members} {w : Writer}

/-! ### The files -/

/-- What a save starts from if the directory of the file is made before it reads. -/
def uncovered (tree : FileTree) (path : Text) : Except Failure Members :=
  readOrEmpty (tree.makeDirectories (folder path) 0o700).1 path

/-- Where both saves take place: in a directory that is there or is made, and over a file that can
be read or be replaced. -/
structure Site (tree made : FileTree) (path : Text) (parent : Place) : Prop where
  makes : tree.makeDirectories (folder path) 0o700 = (made, .ok ())
  ready : Ready made path parent
  read : ∃ members, readOrEmpty tree path = .ok members

theorem exists_read_of_save {c : StoredCredential} (h : save tree path c = (after, .ok ())) :
    ∃ members, readOrEmpty tree path = .ok members ∧
      write tree path (members.insert key c.toJson) = (after, .ok ()) := by
  rw [save_def] at h
  split at h
  · cases h
  · next members hmembers => exact ⟨members, hmembers, h⟩

theorem exists_site {c : StoredCredential} (h : save tree path c = (after, .ok ()))
    (hrooted : tree.Rooted) : ∃ made parent, Site tree made path parent := by
  obtain ⟨members, hmembers, hwrite⟩ := exists_read_of_save h
  have hends := ends_write tree path (members.insert key c.toJson)
  rw [hwrite] at hends
  cases hends with
  | done hmade hstage hreplace =>
    have hopens :=
      FileTree.opens_makeDirectoriesFrom {} tree (folder path) 0o700 ((folder path).length + 1)
    rw [← FileTree.makeDirectoriesWithin, ← FileTree.makeDirectories, hmade] at hopens
    have hkeeps := FileTree.keepsDirectories_write hstage
    obtain ⟨parent, last, mode, hspot, hold, -⟩ := FileTree.write_eq_ok hstage
    obtain ⟨_, _, _, _, _, _, -, -, htarget, hfile, -⟩ := FileTree.replace_eq_ok hreplace
    have hfits := fits_of_spot (FileTree.endsInName_of_spot htarget) hspot
    obtain ⟨_, hwalk, hstaged, -⟩ := walk_of_spot_staging hspot
    cases hstaged
    cases htarget.symm.trans (hkeeps.spot (hfits.spot hwalk))
    have hdirectory := (hopens.rooted hrooted).isDirectory_of_walk (usable_folder hfits.usable)
      ((walk_folder _ path).trans hwalk)
    refine ⟨_, parent, hmade, ⟨hfits, hdirectory, hwalk, fun mode hentry => ?_,
      fun mode hentry => ?_⟩, members, hmembers⟩
    · exact hfile mode (hkeeps _ _ hentry)
    · rcases hold with ⟨hnone, -⟩ | ⟨old, hsome⟩
      · cases hnone.symm.trans hentry
      · cases hsome.symm.trans hentry

/-- A file at a place holds an object with a credential. -/
def Carries (tree : FileTree) (place : Place) (c : StoredCredential) : Prop :=
  ∃ (mode : Nat) (members : Members), Json.Readable 0 (.object members) ∧
    tree.get? place = some (.file mode (FileTree.jsonBytes (.object (members.insert key c.toJson))))

theorem Carries.congr {c : StoredCredential} (h : Carries tree place c)
    (heq : now.get? place = tree.get? place) : Carries now place c := by
  rwa [Carries, heq]

theorem read_of_stat {mode : Nat} {c : StoredCredential}
    (hreadable : Json.Readable 0 (.object members))
    (hstat : tree.stat path =
      .ok (.file mode (FileTree.jsonBytes (.object (members.insert key c.toJson))))) :
    ∃ written, read tree path = .ok written ∧ written.get? key = some c.joined.toJson := by
  refine ⟨_, read_of_readJson (readJson_of_document hstat (isDocument_insert hreadable c)), ?_⟩
  rw [Members.get?_insert, if_pos rfl]

/-- What is loaded is determined by what stands under the key. -/
theorem credential_congr {members' : Members} (h : members.get? key = members'.get? key) :
    credential path members = credential path members' := by
  rw [credential, credential, h]

theorem readOrEmpty_congr (h : now.stat path = tree.stat path) :
    readOrEmpty now path = readOrEmpty tree path := by
  simp only [readOrEmpty_def, read_def, FileTree.readJson, FileTree.readText, FileTree.read, h]

theorem carries_withStaged {c : StoredCredential} (h : Json.Readable 0 (.object members)) :
    Carries
      (withStaged tree path parent (FileTree.jsonBytes (.object (members.insert key c.toJson))))
      (parent ++ [stagedName path]) c :=
  ⟨_, members, h, (get?_withStaged ..).trans (if_pos rfl)⟩

namespace Ready

theorem stat_congr (h : Ready now path parent) (h' : Ready made path parent)
    (hfile : now.get? (parent ++ [fileName path]) = made.get? (parent ++ [fileName path])) :
    now.stat path = made.stat path := by
  rw [FileTree.stat, FileTree.stat, h.spot, h'.spot]
  simp only [bind, Except.bind, hfile]

theorem read_of_carries (h : Ready now path parent) {c : StoredCredential}
    (hcarries : Carries now (parent ++ [fileName path]) c) :
    ∃ members, read now path = .ok members ∧ members.get? key = some c.joined.toJson := by
  obtain ⟨mode, members, hreadable, hentry⟩ := hcarries
  exact read_of_stat hreadable (FileTree.stat_of_name h.spot hentry)

theorem commit_of_carries (h : Ready now path parent) {c : StoredCredential}
    (hcarries : Carries now (parent ++ [stagedName path]) c) :
    ∃ after, commit now path = (after, .ok ()) ∧ Ready after path parent ∧
      after.get? (parent ++ [stagedName path]) = none ∧
      Carries after (parent ++ [fileName path]) c := by
  obtain ⟨mode, members, hreadable, hentry⟩ := hcarries
  refine ⟨_, by rw [commit_def, h.replace_of_entry hentry], h.moved mode _, ?_, mode, members,
    hreadable, ?_⟩
  · rw [get?_moved, if_neg h.ne, if_pos rfl]
  · rw [get?_moved, if_pos rfl]

theorem file_withStaged (h : Ready now path parent) (content : Bytes) :
    (StoreFile.withStaged now path parent content).get? (parent ++ [fileName path]) =
      now.get? (parent ++ [fileName path]) := by
  rw [get?_withStaged, if_neg h.ne.symm]

end Ready

inductive Shows (tree made : FileTree) (path : Text) (parent : Place)
    (c : Writer → StoredCredential) : Stand → FileTree → Prop
  | untouched : Shows tree made path parent c .untouched tree
  | staged {now : FileTree} {w : Writer} (ready : Ready now path parent)
      (content : Carries now (parent ++ [stagedName path]) (c w))
      (file : now.get? (parent ++ [fileName path]) = made.get? (parent ++ [fileName path])) :
    Shows tree made path parent c (.staged w none) now
  | stagedOver {now : FileTree} {w v : Writer} (ready : Ready now path parent)
      (content : Carries now (parent ++ [stagedName path]) (c w))
      (file : Carries now (parent ++ [fileName path]) (c v)) :
    Shows tree made path parent c (.staged w (some v)) now
  | moved {now : FileTree} {w : Writer} (ready : Ready now path parent)
      (gone : now.get? (parent ++ [stagedName path]) = none)
      (file : Carries now (parent ++ [fileName path]) (c w)) :
    Shows tree made path parent c (.moved w) now

namespace Shows

variable {stand : Stand}

/-- The file can be read or replaced, unless it was only uncovered and cannot be read. -/
theorem readOrEmpty (h : Shows tree made path parent c stand now)
    (site : Site tree made path parent) :
    (stand.uncovers = true ∧ StoreFile.readOrEmpty now path = uncovered tree path) ∨
      stand.uncovers = false ∧ ∃ members, StoreFile.readOrEmpty now path = .ok members := by
  have hcarried (hready : Ready now path parent) {w : Writer}
      (hfile : Carries now (parent ++ [fileName path]) (c w)) :
      ∃ members, StoreFile.readOrEmpty now path = .ok members := by
    obtain ⟨members, hread, -⟩ := hready.read_of_carries hfile
    exact ⟨members, by rw [StoreFile.readOrEmpty_def, hread]⟩
  cases h with
  | untouched => exact .inr ⟨rfl, site.read⟩
  | staged ready _ file =>
    rw [uncovered, site.makes, readOrEmpty_congr (ready.stat_congr site.ready file)]
    exact .inl ⟨rfl, rfl⟩
  | stagedOver ready _ file => exact .inr ⟨rfl, hcarried ready file⟩
  | moved ready _ file => exact .inr ⟨rfl, hcarried ready file⟩

theorem stage (h : Shows tree made path parent c stand now) (site : Site tree made path parent)
    (hreadable : Json.Readable 0 (.object members)) (w : Writer) :
    ∃ after, StoreFile.stage now path (members.insert key (c w).toJson) = (after, .ok ()) ∧
      Shows tree made path parent c (stand.stage w) after := by
  cases h with
  | untouched =>
    exact ⟨_, stage_eq _ site.makes site.ready, .staged (site.ready.withStaged _)
      (carries_withStaged hreadable) (site.ready.file_withStaged _)⟩
  | staged ready _ file =>
    exact ⟨_, stage_eq _ ready.makeDirectories ready, .staged (ready.withStaged _)
      (carries_withStaged hreadable) ((ready.file_withStaged _).trans file)⟩
  | stagedOver ready _ file | moved ready _ file =>
    exact ⟨_, stage_eq _ ready.makeDirectories ready, .stagedOver (ready.withStaged _)
      (carries_withStaged hreadable) (file.congr (ready.file_withStaged _))⟩

end Shows

/-! ### The writers -/

def nothingStaged (path : Text) : Failure := refusal path ⟨.notFound, stagingPath path, some path⟩

inductive Stands (tree : FileTree) (path : Text) (c : StoredCredential) : Mark → Progress → Prop
  | begun : Stands tree path c .begun .begun
  | loaded {members : Members} (h : Json.Readable 0 (.object members)) :
    Stands tree path c .loaded (.loaded (members.insert key c.toJson))
  | staged : Stands tree path c .staged .staged
  | done : Stands tree path c .done (.ended (.ok ()))
  | refused : Stands tree path c .refused (.ended (.error (nothingStaged path)))
  | unread {f : Failure} (h : uncovered tree path = .error f) :
    Stands tree path c .unread (.ended (.error f))

theorem Shows.replace {stand : Stand} (h : Shows tree made path parent c stand now)
    (hstand : stand ≠ .untouched) (own : StoredCredential) :
    ∃ after progress, Progress.move now path own .staged .replace = (after, progress) ∧
      Shows tree made path parent c stand.replace.1 after ∧
      Stands tree path own stand.replace.2 progress := by
  have hcarried (hready : Ready now path parent) {w : Writer}
      (hcontent : Carries now (parent ++ [stagedName path]) (c w)) :
      ∃ after, Progress.move now path own .staged .replace = (after, .ended (.ok ())) ∧
        Shows tree made path parent c (.moved w) after := by
    obtain ⟨after, hcommit, hafter, hgone, hfile⟩ := hready.commit_of_carries hcontent
    exact ⟨after, by rw [Progress.move, hcommit], .moved hafter hgone hfile⟩
  cases h with
  | untouched => exact absurd rfl hstand
  | staged ready content _ =>
    obtain ⟨after, hmove, hshows⟩ := hcarried ready content
    exact ⟨after, _, hmove, hshows, .done⟩
  | stagedOver ready content _ =>
    obtain ⟨after, hmove, hshows⟩ := hcarried ready content
    exact ⟨after, _, hmove, hshows, .done⟩
  | moved ready gone file =>
    have hmove : Progress.move now path own .staged .replace =
        (now, .ended (.error (nothingStaged path))) := by
      rw [Progress.move, commit_def, ready.replace_of_none gone, nothingStaged]
    exact ⟨now, _, hmove, .moved ready gone file, .refused⟩

structure Follows (tree made : FileTree) (path : Text) (parent : Place)
    (c : Writer → StoredCredential) (o : Course) (s : Saves) : Prop where
  files : Shows tree made path parent c o.stand s.tree
  writers : ∀ w, Stands tree path (c w) (o.mark w) (s.progress w)
  touched : ∀ w, o.mark w = .staged → o.stand ≠ .untouched

theorem stands_update {mark : Writer → Mark} {progress : Writer → Progress} {mark' : Mark}
    {progress' : Progress} (h : ∀ w, Stands tree path (c w) (mark w) (progress w))
    (hw : Stands tree path (c w) mark' progress') (v : Writer) :
    Stands tree path (c v) (Function.update mark w mark' v)
      (Function.update progress w progress' v) := by
  by_cases hv : v = w
  · subst hv
    rwa [Function.update_self, Function.update_self]
  · rw [Function.update_of_ne hv, Function.update_of_ne hv]
    exact h v

/-- Whether reading fails once the directory of the file is made. -/
def hidden (tree : FileTree) (path : Text) : Bool := !(uncovered tree path).isOk

/-- Nothing is hidden where the directory of the file is there. -/
theorem hidden_of_isDirectory {c : StoredCredential} (h : save tree path c = (after, .ok ()))
    (hfolder : tree.isDirectory (folder path) = true) : hidden tree path = false := by
  obtain ⟨members, hmembers, -⟩ := exists_read_of_save h
  rw [hidden, uncovered, FileTree.makeDirectories_of_isDirectory hfolder, hmembers]
  rfl

/-- A writer that begins reads what it can start from, or fails where its course says so. -/
theorem Shows.read {stand : Stand} (h : Shows tree made path parent c stand now)
    (site : Site tree made path parent) (own : StoredCredential) :
    ∃ progress, Progress.move now path own .begun .read = (now, progress) ∧
      Stands tree path own (if hidden tree path && stand.uncovers then .unread else .loaded)
        progress := by
  have hloaded {members : Members} (hread : StoreFile.readOrEmpty now path = .ok members) :
      ∃ progress, Progress.move now path own .begun .read = (now, progress) ∧
        Stands tree path own .loaded progress :=
    ⟨_, by rw [Progress.move, hread], .loaded (readable_of_readOrEmpty hread)⟩
  rcases h.readOrEmpty site with ⟨huncovers, hread⟩ | ⟨huncovers, members, hread⟩
  · rw [huncovers, Bool.and_true, hidden]
    cases huncovered : uncovered tree path with
    | error f =>
      exact ⟨_, by rw [Progress.move, hread, huncovered], .unread huncovered⟩
    | ok members => exact hloaded (hread.trans huncovered)
  · rw [huncovers, Bool.and_false]
    exact hloaded hread

theorem Follows.move {o : Course} {s : Saves} (site : Site tree made path parent)
    (h : Follows tree made path parent c o s) (m : Writer × Move) :
    Follows tree made path parent c (o.move (hidden tree path) m) (s.move path c m) := by
  obtain ⟨w, m⟩ := m
  have hstands := h.writers w
  rw [Course.move, Saves.move]
  dsimp only
  generalize hmark : o.mark w = mark, hprogress : s.progress w = progress at hstands
  have hidle : Follows tree made path parent c o
      ⟨s.tree, Function.update s.progress w progress⟩ := by
    rw [← hprogress, Function.update_eq_self]
    exact h
  cases hstands with
  | begun =>
    cases m with
    | read =>
      obtain ⟨progress, hread, hstands⟩ := h.files.read site (c w)
      rw [hread]
      refine ⟨h.files, stands_update h.writers hstands, fun v hv => h.touched v ?_⟩
      dsimp only at hv
      rw [Function.update_apply] at hv
      split at hv
      · split at hv <;> cases hv
      · exact hv
    | stage | replace => exact hidle
  | loaded hreadable =>
    cases m with
    | stage =>
      obtain ⟨after, hstage, hshows⟩ := h.files.stage site hreadable w
      rw [Progress.move, hstage]
      exact ⟨hshows, stands_update h.writers .staged, fun _ _ => Stand.stage_ne w o.stand⟩
    | read | replace => exact hidle
  | staged =>
    cases m with
    | replace =>
      obtain ⟨after, progress, hcommit, hshows, hstands⟩ :=
        h.files.replace (h.touched w hmark) (c w)
      rw [hcommit]
      exact ⟨hshows, stands_update h.writers hstands,
        fun _ _ => Stand.replace_ne (h.touched w hmark)⟩
    | read | stage => exact hidle
  | done | refused | unread => exact hidle

theorem Follows.run {o : Course} {s : Saves} (site : Site tree made path parent)
    (h : Follows tree made path parent c o s) (schedule : List (Writer × Move)) :
    Follows tree made path parent c (o.run (hidden tree path) schedule)
      (s.run path c schedule) := by
  induction schedule generalizing o s with
  | nil => exact h
  | cons m schedule ih => exact ih (h.move site m)

theorem follows_begin : Follows tree made path parent c .begin (.begin tree) :=
  ⟨.untouched, fun _ => .begun, nofun⟩

/-! ## Orders of the moves -/

/-- An order of the moves of two saves, in which each writer makes its own in their order. -/
def IsInterleaving (schedule : List (Writer × Move)) : Prop :=
  ∀ w : Writer, (schedule.filter fun m => m.1 == w) = w.moves

instance (schedule : List (Writer × Move)) : Decidable (IsInterleaving schedule) :=
  inferInstanceAs (Decidable (∀ w : Writer, (schedule.filter fun m => m.1 == w) = w.moves))

/-- The other writer puts something in place after the writer has staged its content and before it
puts that in place. -/
def Overtaken (schedule : List (Writer × Move)) (w : Writer) : Prop :=
  List.Sublist [(w, .stage), (w.other, .replace), (w, .replace)] schedule

/-- The writer reads when the other one has made the directory of the file, and nothing was put in
the place of what stands there. -/
def ReadsBetween (schedule : List (Writer × Move)) (w : Writer) : Prop :=
  List.Sublist [(w.other, .stage), (w, .read), (w.other, .replace)] schedule

/-- The writer fails to read what the other one has uncovered. -/
def Strays (hidden : Bool) (schedule : List (Writer × Move)) (w : Writer) : Prop :=
  hidden = true ∧ ReadsBetween schedule w

/-- The writer is the second of the two to make a move. -/
def MovesLast (schedule : List (Writer × Move)) (m : Move) (w : Writer) : Prop :=
  List.Sublist [(w.other, m), (w, m)] schedule

instance (schedule : List (Writer × Move)) (w : Writer) : Decidable (Overtaken schedule w) :=
  inferInstanceAs (Decidable (List.Sublist _ _))

instance (schedule : List (Writer × Move)) (w : Writer) : Decidable (ReadsBetween schedule w) :=
  inferInstanceAs (Decidable (List.Sublist _ _))

instance (hidden : Bool) (schedule : List (Writer × Move)) (w : Writer) :
    Decidable (Strays hidden schedule w) :=
  inferInstanceAs (Decidable (_ ∧ _))

instance (schedule : List (Writer × Move)) (m : Move) (w : Writer) :
    Decidable (MovesLast schedule m w) :=
  inferInstanceAs (Decidable (List.Sublist _ _))

section

variable {α : Type}

/-- All orders of `a` and what may follow it, with the elements of a list between them. -/
def weaveAfter (a : α) (rest : List α → List (List α)) : List α → List (List α)
  | [] => (rest []).map (a :: ·)
  | b :: bs => (rest (b :: bs)).map (a :: ·) ++ (weaveAfter a rest bs).map (b :: ·)

/-- All orders of two lists that keep the order of each. -/
def weave : List α → List α → List (List α)
  | [], bs => [bs]
  | a :: as, bs => weaveAfter a (weave as) bs

theorem mem_weaveAfter {a : α} {rest : List α → List (List α)} {bs cs : List α}
    (h : cs ∈ rest bs) : a :: cs ∈ weaveAfter a rest bs := by
  cases bs with
  | nil => exact List.mem_map_of_mem h
  | cons b bs => exact List.mem_append_left _ (List.mem_map_of_mem h)

theorem mem_weave_cons {as bs cs : List α} (b : α) (h : cs ∈ weave as bs) :
    b :: cs ∈ weave as (b :: bs) := by
  cases as with
  | nil =>
    rw [weave, List.mem_singleton] at h ⊢
    rw [h]
  | cons a as => exact List.mem_append_right _ (List.mem_map_of_mem h)

end

theorem mem_weave {schedule first second : List (Writer × Move)}
    (hfirst : (schedule.filter fun m => m.1 == Writer.first) = first)
    (hsecond : (schedule.filter fun m => m.1 == Writer.second) = second) :
    schedule ∈ weave first second := by
  induction schedule generalizing first second with
  | nil =>
    subst hfirst hsecond
    exact List.mem_singleton_self _
  | cons m schedule ih =>
    obtain ⟨w, m⟩ := m
    subst hfirst hsecond
    cases w with
    | first => exact mem_weaveAfter (ih rfl rfl)
    | second => exact mem_weave_cons _ (ih rfl rfl)

/-- In each of the twenty orders a writer is refused exactly if it is overtaken by one that does not
stray, and the content of the one that stages last is in place in the end. -/
theorem course_of_weave : ∀ hidden, ∀ schedule ∈ weave Writer.first.moves Writer.second.moves,
    (∀ w, (Course.begin.run hidden schedule).mark w =
      if Strays hidden schedule w then .unread
      else if Overtaken schedule w ∧ ¬Strays hidden schedule w.other then .refused
      else .done) ∧
    ∃ w, (Course.begin.run hidden schedule).stand = .moved w ∧ ¬Strays hidden schedule w ∧
      (¬Strays hidden schedule w.other → MovesLast schedule .stage w ∧
        ((∀ v, ¬Overtaken schedule v) → MovesLast schedule .replace w)) := by
  decide +kernel

/-! ## The outcome -/

/-- What is loaded after the file was written. -/
theorem loaded_eq {mode : Nat} {c : StoredCredential}
    (hreadable : Json.Readable 0 (.object members))
    (hstat : tree.stat path =
      .ok (.file mode (FileTree.jsonBytes (.object (members.insert key c.toJson))))) :
    (read tree path).bind (credential path) = credential path [(key, c.joined.toJson)] := by
  obtain ⟨written, hread, hkey⟩ := read_of_stat hreadable hstat
  rw [hread]
  exact credential_congr (hkey.trans (if_pos rfl).symm)

theorem loaded_of_stand (site : Site tree made path parent) {schedule : List (Writer × Move)}
    (h : (Course.begin.run (hidden tree path) schedule).stand = .moved w) :
    (read ((Saves.begin tree).run path c schedule).tree path).bind (credential path) =
      credential path [(key, (c w).joined.toJson)] := by
  have hshows := ((follows_begin (c := c)).run site schedule).files
  rw [h] at hshows
  cases hshows with
  | moved ready _ file =>
    obtain ⟨mode, members, hreadable, hentry⟩ := file
    exact loaded_eq hreadable (FileTree.stat_of_name ready.spot hentry)

theorem credential_of_storable {c : StoredCredential} (h : c.Storable) :
    credential path [(key, c.joined.toJson)] = .ok c :=
  credential_of_get? h (by rw [h.joined_eq_self]; rfl)

/-- **Two saves at the same time**, each of which would succeed alone.  A save succeeds unless the
other one puts in place what it has staged, or it fails to read what the other one has uncovered.
What is loaded in the end is the credential of the save that stages last, as if it had been saved
alone; if both succeed, that one also replaces the file last. -/
theorem saves_interleaved {schedule : List (Writer × Move)} (hschedule : IsInterleaving schedule)
    (halone : ∀ w, (save tree path (c w)).2 = .ok ()) (hrooted : tree.Rooted) :
    (∀ w, ((Saves.begin tree).run path c schedule).progress w = .ended
      (if Strays (hidden tree path) schedule w then (uncovered tree path).map fun _ => ()
      else if Overtaken schedule w ∧ ¬Strays (hidden tree path) schedule w.other then
        .error (nothingStaged path)
      else .ok ())) ∧
    ∃ w, ¬Strays (hidden tree path) schedule w ∧
      (¬Strays (hidden tree path) schedule w.other → MovesLast schedule .stage w ∧
        ((∀ v, ¬Overtaken schedule v) → MovesLast schedule .replace w)) ∧
      (read ((Saves.begin tree).run path c schedule).tree path).bind (credential path) =
        (read (save tree path (c w)).1 path).bind (credential path) ∧
      ((c w).Storable →
        (read ((Saves.begin tree).run path c schedule).tree path).bind (credential path) =
          .ok (c w)) := by
  have hsaved (v : Writer) : save tree path (c v) = ((save tree path (c v)).1, .ok ()) :=
    Prod.ext rfl (halone v)
  obtain ⟨made, parent, site⟩ := exists_site (hsaved .first) hrooted
  have hfollows := (follows_begin (c := c)).run site schedule
  obtain ⟨hmarks, w, hstand, hreads, hlast⟩ :=
    course_of_weave (hidden tree path) schedule (mem_weave (hschedule .first) (hschedule .second))
  have hloaded := loaded_of_stand (c := c) site hstand
  refine ⟨fun v => ?_, w, hreads, hlast, ?_, fun hstorable => ?_⟩
  · have hstands := hfollows.writers v
    rw [hmarks v] at hstands
    generalize ((Saves.begin tree).run path c schedule).progress v = progress at hstands ⊢
    by_cases hstrays : Strays (hidden tree path) schedule v
    · rw [if_pos hstrays] at hstands ⊢
      cases hstands with
      | unread huncovered =>
        rw [huncovered]
        rfl
    · rw [if_neg hstrays] at hstands ⊢
      by_cases hovertaken : Overtaken schedule v ∧ ¬Strays (hidden tree path) schedule v.other
      · rw [if_pos hovertaken] at hstands ⊢
        cases hstands
        rfl
      · rw [if_neg hovertaken] at hstands ⊢
        cases hstands
        rfl
  · obtain ⟨members, hmembers, hwrite⟩ := exists_read_of_save (hsaved w)
    obtain ⟨mode, hstat⟩ := stat_of_write hwrite
    rw [hloaded, loaded_eq (readable_of_readOrEmpty hmembers) hstat]
  · exact hloaded.trans (credential_of_storable hstorable)

def twoTokens : Writer → StoredCredential
  | .first => { refreshToken := "1//first" }
  | .second => { refreshToken := "1//second" }

/-- The second save stages its content over that of the first and puts it in place. -/
def overtaking : List (Writer × Move) :=
  [(.first, .read), (.first, .stage), (.second, .read), (.second, .stage), (.second, .replace),
    (.first, .replace)]

theorem storable_twoTokens (w : Writer) : (twoTokens w).Storable := by
  cases w with
  | first | second =>
    exact { StoredCredential.storable_default with refreshToken := Json.joined_ofString _ }

theorem save_twoTokens (w : Writer) :
    (save World.bare.files "creds.json" (twoTokens w)).2 = .ok () := by
  cases w with
  | first | second => exact eq_ok_of_isOk (by decide +kernel)

theorem not_strays_twoTokens (schedule : List (Writer × Move)) (w : Writer) :
    ¬Strays (hidden World.bare.files "creds.json") schedule w := by
  rw [hidden_of_isDirectory (Prod.ext rfl (save_twoTokens .first)) (by decide +kernel)]
  exact fun h => nomatch h.1

/-- From an empty directory both saves take place, and the first is refused. -/
theorem saves_interleaved_overtaking :
    ((Saves.begin World.bare.files).run "creds.json" twoTokens overtaking).progress .first =
        .ended (.error (nothingStaged "creds.json")) ∧
      (read ((Saves.begin World.bare.files).run "creds.json" twoTokens overtaking).tree
        "creds.json").bind (credential "creds.json") = .ok (twoTokens .second) := by
  have hschedule : IsInterleaving overtaking := by decide
  obtain ⟨hends, w, -, hlast, -, hloaded⟩ :=
    saves_interleaved hschedule save_twoTokens FileTree.rooted_empty
  refine ⟨(hends .first).trans ?_, ?_⟩
  · rw [if_neg (not_strays_twoTokens _ _), if_pos ⟨by decide, not_strays_twoTokens _ _⟩]
  · have hstages := (hlast (not_strays_twoTokens _ _)).1
    cases w with
    | first => exact absurd hstages (by decide)
    | second => exact hloaded (storable_twoTokens .second)

def Progress.isFailed : Progress → Bool
  | .ended (.error _) => true
  | _ => false

/-- Either save would succeed alone, but not the one that the other overtakes, and what is loaded
is not the credential of the one that replaces the file last. -/
theorem save_overtaken :
    IsInterleaving overtaking ∧
      (∀ w, (save World.bare.files "creds.json" (twoTokens w)).2 = .ok ()) ∧
      MovesLast overtaking .replace .first ∧
      ((Saves.begin World.bare.files).run "creds.json" twoTokens overtaking).progress .first ≠
        .ended (.ok ()) ∧
      (read ((Saves.begin World.bare.files).run "creds.json" twoTokens overtaking).tree
        "creds.json").bind (credential "creds.json") ≠ .ok (twoTokens .first) := by
  refine ⟨by decide, save_twoTokens, by decide, fun heq => ?_, fun heq => ?_⟩
  · have hfailed : (((Saves.begin World.bare.files).run "creds.json" twoTokens
        overtaking).progress .first).isFailed = true := by decide +kernel
    rw [heq] at hfailed
    cases hfailed
  · obtain ⟨made, parent, site⟩ := exists_site (Prod.ext rfl (save_twoTokens .first))
      FileTree.rooted_empty
    have hstand : (Course.begin.run (hidden World.bare.files "creds.json") overtaking).stand =
        .moved .second := by decide +kernel
    rw [loaded_of_stand site hstand, credential_of_storable (storable_twoTokens .second)] at heq
    exact absurd (Except.ok.inj heq) (by decide)

end StoreFile

end CredentialHelper
