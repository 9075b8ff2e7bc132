import TlsSetup.Proofs.Conversion
import TlsSetup.Proofs.HostLabels
import TlsSetup.Resource.FileTree

/-!
# Where names of files lead

A loader sees names from its root. A name is settled if it or the root is absolute: the place to which
it leads then leads to itself and holds the same file wherever the program runs. From a relative root
no place is settled. What is looked up once more is seen from the directory to which the root leads, so
it is the same place only if the root leads nowhere else.
-/

namespace TlsSetup

namespace Path

variable {root front p : String}

/-- The parts of a name that lead somewhere. -/
def names (p : String) : List String := (parts p).filter fun s => s != "" && s != "."

/-- Two names that denote the same place. -/
def SamePlace (p q : String) : Prop := components p = components q

private theorem components_of_relative (h : isAbsolute p = false) :
    components p = (if (parts p).head? == some "." then ["."] else []) ++ names p := by
  rw [components, if_neg (by simp [h])]
  split
  · rfl
  · rfl

private theorem parts_append_slash (front p : String) :
    parts (front ++ "/" ++ p) = parts front ++ parts p := by
  have hslash : (front ++ "/" ++ p).toList = front.toList ++ '/' :: p.toList := by simp
  rw [parts, hslash, Text.pieces_append_cons, List.map_append]
  rfl

private theorem parts_ne_nil (p : String) : parts p ≠ [] := by
  simp [parts, Text.pieces_ne_nil]

private theorem names_append_slash (front p : String) :
    names (front ++ "/" ++ p) = names front ++ names p := by
  rw [names, parts_append_slash, List.filter_append]
  rfl

private theorem join_of_isAbsolute (root : String) (h : isAbsolute p) : join root p = p := by
  rw [join, if_pos h]

private theorem join_empty (p : String) : join "" p = p := by
  rw [join]
  split <;> rfl

private theorem exists_front (hroot : root ≠ "") (hp : isAbsolute p = false) :
    ∃ front, (root = front ∨ root = front ++ "/") ∧ join root p = front ++ "/" ++ p := by
  have hjoin : ¬ isAbsolute p := by simp [hp]
  cases hlast : root.toList.getLast? with
  | none =>
    have hnil : root.toList = [] := List.getLast?_eq_none_iff.mp hlast
    exact absurd (String.toList_eq_nil_iff.mp hnil) hroot
  | some c =>
    by_cases hc : c = '/'
    · subst c
      have hfront : root = String.ofList root.toList.dropLast ++ "/" := by
        apply String.toList_injective
        rw [String.toList_append, String.toList_ofList]
        exact (List.dropLast_append_getLast? '/' hlast).symm
      refine ⟨String.ofList root.toList.dropLast, .inr hfront, ?_⟩
      rw [← hfront]
      simp only [join, if_neg hjoin, hlast]
    · refine ⟨root, .inl rfl, ?_⟩
      simp only [join, if_neg hjoin, hlast]

private theorem parts_front (h : root = front ∨ root = front ++ "/") :
    parts root = parts front ∨ parts root = parts front ++ [""] := by
  rcases h with h | h
  · exact .inl (congrArg parts h)
  · have hempty : front ++ "/" = front ++ "/" ++ "" := by simp
    rw [h, hempty, parts_append_slash]
    exact .inr rfl

private theorem isAbsolute_join (root p : String) :
    isAbsolute (join root p) = (isAbsolute root || isAbsolute p) := by
  by_cases hroot : root = ""
  · rw [hroot, join_empty]
    rfl
  · cases hp : isAbsolute p with
    | true => rw [join_of_isAbsolute root hp, hp, Bool.or_true]
    | false =>
      obtain ⟨front, hfront, hjoin⟩ := exists_front hroot hp
      rw [hjoin, Bool.or_false, isAbsolute, isAbsolute]
      rcases hfront with rfl | rfl
      · cases hlist : root.toList with
        | nil => exact absurd (String.toList_eq_nil_iff.mp hlist) hroot
        | cons c cs => simp [hlist]
      · cases hlist : front.toList <;> simp [hlist]

private theorem names_join (root : String) (hp : isAbsolute p = false) :
    names (join root p) = names root ++ names p := by
  by_cases hroot : root = ""
  · rw [hroot, join_empty]
    rfl
  · obtain ⟨front, hfront, hjoin⟩ := exists_front hroot hp
    have hnames : names root = names front := by
      rcases parts_front hfront with h | h <;> simp [names, h]
    rw [hjoin, names_append_slash, hnames]

private theorem components_join (hroot : root ≠ "") (hrel : isAbsolute root = false)
    (hp : isAbsolute p = false) : components (join root p) = components root ++ names p := by
  have hjoinrel : isAbsolute (join root p) = false := by rw [isAbsolute_join, hrel, hp, Bool.or_false]
  obtain ⟨front, hfront, hjoin⟩ := exists_front hroot hp
  have hhead : (parts (join root p)).head? = (parts root).head? := by
    rw [hjoin, parts_append_slash, List.head?_append_of_ne_nil _ (parts_ne_nil front)]
    rcases parts_front hfront with h | h
    · rw [h]
    · rw [h, List.head?_append_of_ne_nil _ (parts_ne_nil front)]
  rw [components_of_relative hjoinrel, components_of_relative hrel, hhead, names_join root hp,
    List.append_assoc]

/-- A second look from the root leads to the same place exactly if the root or the name is absolute, or
the root leads nowhere. -/
theorem samePlace_join_iff (root p : String) :
    SamePlace (join root (join root p)) (join root p) ↔
      isAbsolute root ∨ isAbsolute p ∨ names root = [] := by
  cases habs : isAbsolute root || isAbsolute p with
  | true =>
    have hjoin : isAbsolute (join root p) := by rw [isAbsolute_join, habs]
    have hsame : SamePlace (join root (join root p)) (join root p) := by
      rw [join_of_isAbsolute root hjoin]
      rfl
    rcases (Bool.or_eq_true _ _).mp habs with h | h <;> simp [hsame, h]
  | false =>
    obtain ⟨hrel, hp⟩ := Bool.or_eq_false_iff.mp habs
    have hjoin : isAbsolute (join root p) = false := by rw [isAbsolute_join, habs]
    by_cases hroot : root = ""
    · have hnames : names "" = [] := rfl
      simp [hroot, SamePlace, join_empty, hnames]
    · -- both names begin with the root, so what is left are the parts of one more root
      rw [SamePlace, components_join hroot hrel hjoin, components_join hroot hrel hp,
        names_join root hp, List.append_cancel_left_eq, List.append_left_eq_self]
      simp [hrel, hp]

end Path

namespace FileTree

variable {t : FileTree} {place d parts rest : List String} {root front p : String}

def start (t : FileTree) (p : String) : List String := if Path.isAbsolute p then [] else t.home

/-- One part further, which can only be a directory. -/
def enter? (t : FileTree) (place : List String) (part : String) : Option (List String) :=
  if part = "" ∨ part = "." then some place
  else if part = ".." then some place.dropLast
  else if partLimit < part.utf8ByteSize then none
  else if t.node? (place ++ [part]) = some .directory then some (place ++ [part])
  else none

def directory? (t : FileTree) (path : String) : Option (List String) :=
  (Path.parts path).foldlM t.enter? (t.start path)

private theorem start_of_relative (h : Path.isAbsolute p = false) : t.start p = t.home := by
  rw [start, h]
  rfl

/-- Parts lead from a place to a directory, from which a walk goes on, or to none, and then there is
nothing below them. -/
inductive Follows (t : FileTree) (place parts : List String) : Option (List String) → Prop where
  | directory {d : List String}
      (h : ∀ rest, t.walk place .directory (parts ++ rest) = t.walk d .directory rest) :
      Follows t place parts (some d)
  | nothing
      (h : ∀ rest ≠ [], ∃ fault, t.walk place .directory (parts ++ rest) = .error fault) :
      Follows t place parts none

private theorem follows_enter? (t : FileTree) (place : List String) (part : String) :
    Follows t place [part] (t.enter? place part) := by
  rw [enter?]
  by_cases hdot : part = "" ∨ part = "."
  · rw [if_pos hdot]
    apply Follows.directory
    intro rest
    rw [List.singleton_append, walk, if_pos hdot]
  rw [if_neg hdot]
  by_cases hup : part = ".."
  · rw [if_pos hup]
    apply Follows.directory
    intro rest
    rw [List.singleton_append, walk, if_neg hdot, if_pos hup]
  rw [if_neg hup]
  by_cases hlong : partLimit < part.utf8ByteSize
  · rw [if_pos hlong]
    apply Follows.nothing
    intro rest _
    rw [List.singleton_append, walk, if_neg hdot, if_neg hup, if_pos hlong]
    exact ⟨.nameTooLong, rfl⟩
  rw [if_neg hlong]
  have hwalk : ∀ node rest, t.node? (place ++ [part]) = some node →
      t.walk place .directory ([part] ++ rest) = t.walk (place ++ [part]) node rest := by
    intro node rest hnode
    rw [List.singleton_append, walk, if_neg hdot, if_neg hup, if_neg hlong, hnode]
  cases hnode : t.node? (place ++ [part]) with
  | none =>
    apply Follows.nothing
    intro rest _
    refine ⟨.noSuchFile, ?_⟩
    rw [List.singleton_append, walk, if_neg hdot, if_neg hup, if_neg hlong, hnode]
  | some node =>
    cases node with
    | directory =>
      rw [if_pos rfl]
      apply Follows.directory
      intro rest
      exact hwalk .directory rest hnode
    | file contents =>
      rw [if_neg (by simp)]
      apply Follows.nothing
      intro rest hrest
      -- a file may be the last part only
      obtain ⟨next, others, rfl⟩ := List.exists_cons_of_ne_nil hrest
      exact ⟨.notDirectory, (hwalk (.file contents) (next :: others) hnode).trans rfl⟩

theorem Follows.cons {part : String} {found : Option (List String)}
    (h : ∀ rest, t.walk place .directory (part :: rest) = t.walk d .directory rest)
    (hparts : Follows t d parts found) : Follows t place (part :: parts) found := by
  cases hparts with
  | directory hd =>
    apply Follows.directory
    intro rest
    rw [List.cons_append, h, hd]
  | nothing hnone =>
    apply Follows.nothing
    intro rest hrest
    rw [List.cons_append, h]
    exact hnone rest hrest

private theorem follows_foldlM (t : FileTree) (place parts : List String) :
    Follows t place parts (parts.foldlM t.enter? place) := by
  induction parts generalizing place with
  | nil =>
    apply Follows.directory
    intro rest
    rfl
  | cons part parts ih =>
    have hpart := t.follows_enter? place part
    rw [List.foldlM_cons]
    cases hnext : t.enter? place part with
    | none =>
      rw [hnext] at hpart
      cases hpart with
      | nothing hnone =>
        apply Follows.nothing
        intro rest _
        exact hnone (parts ++ rest) (by simp_all)
    | some next =>
      rw [hnext] at hpart
      cases hpart with
      | directory hd => exact Follows.cons hd (ih next)

private theorem walk_withHome (home : List String) (node : Node) (parts : List String) :
    { t with home }.walk place node parts = t.walk place node parts := by
  induction parts generalizing place node with
  | nil => rfl
  | cons part parts ih =>
    cases node with
    | file contents => rfl
    | directory =>
      rw [walk, walk]
      simp only [ih]
      rfl

private theorem read_withHome (h : Path.isAbsolute p) (home : List String) :
    { t with home }.read p = t.read p := by
  simp only [read, if_pos h, walk_withHome]

private theorem read_congr {t' : FileTree} {q : String}
    (hnul : '\x00' ∈ p.toList ↔ '\x00' ∈ q.toList)
    (hp : p ≠ "") (hq : q ≠ "") (hplength : p.utf8ByteSize < nameLimit)
    (hqlength : q.utf8ByteSize < nameLimit)
    (hwalk : t.walk (t.start p) .directory (Path.parts p) =
      t'.walk (t'.start q) .directory (Path.parts q)) : t.read p = t'.read q := by
  have hcontains : p.toList.contains '\x00' = q.toList.contains '\x00' := by
    rw [Bool.eq_iff_iff, List.contains_iff_mem, List.contains_iff_mem]
    exact hnul
  unfold start at hwalk
  rw [read, read, hcontains, if_neg hp, if_neg hq, if_neg (Nat.not_le.mpr hplength),
    if_neg (Nat.not_le.mpr hqlength), hwalk]

private theorem exists_fault_of_walk {fault : ReadFault}
    (h : t.walk (t.start p) .directory (Path.parts p) = .error fault) :
    ∃ fault, t.read p = .error fault := by
  unfold start at h
  rw [read, h]
  split_ifs
  · exact ⟨.nulInName, rfl⟩
  · exact ⟨.noSuchFile, rfl⟩
  · exact ⟨.nameTooLong, rfl⟩
  · exact ⟨fault, rfl⟩

private theorem enter?_of_dot {part : String} (h : part = "" ∨ part = ".") :
    t.enter? place part = some place := by
  rw [enter?, if_pos h]

private theorem foldlM_enter?_of_names (h : parts.filter (fun s => s != "" && s != ".") = []) :
    parts.foldlM t.enter? place = some place := by
  induction parts with
  | nil => rfl
  | cons part parts ih =>
    have hall := List.filter_eq_nil_iff.mp h
    have hdot : part = "" ∨ part = "." := by
      have hpart := hall part (by simp)
      simp only [Bool.and_eq_true, bne_iff_ne, not_and, not_not] at hpart
      by_cases hempty : part = ""
      · exact .inl hempty
      · exact .inr (hpart hempty)
    have hparts : parts.filter (fun s => s != "" && s != ".") = [] := by
      apply List.filter_eq_nil_iff.mpr
      intro other hother
      exact hall other (List.mem_cons_of_mem part hother)
    rw [List.foldlM_cons, enter?_of_dot hdot]
    exact ih hparts

private theorem directory?_of_names (hrel : Path.isAbsolute p = false) (h : Path.names p = []) :
    t.directory? p = some t.home := by
  rw [directory?, start_of_relative hrel]
  exact foldlM_enter?_of_names h

section Relative

variable (hrel : Path.isAbsolute root = false) (hp : Path.isAbsolute p = false)

include hrel in
private theorem directory?_front (hfront : root = front ∨ root = front ++ "/") :
    t.directory? root = (Path.parts front).foldlM t.enter? t.home := by
  rw [directory?, start_of_relative hrel]
  rcases Path.parts_front hfront with h | h
  · rw [h]
  · rw [h, List.foldlM_append]
    cases (Path.parts front).foldlM t.enter? t.home with
    | none => rfl
    | some next => exact enter?_of_dot (t := t) (.inl rfl)

include hrel hp

private theorem start_join : t.start (Path.join root p) = t.home := by
  apply start_of_relative
  rw [Path.isAbsolute_join, hrel, hp, Bool.or_false]

/-- A name that is joined to a relative root is seen from where the root leads. -/
theorem read_join (hne : p ≠ "") (hnul : '\x00' ∈ root.toList → '\x00' ∈ p.toList)
    (hlength : (Path.join root p).utf8ByteSize < nameLimit) (hd : t.directory? root = some d) :
    t.read (Path.join root p) = { t with home := d }.read p := by
  by_cases hroot : root = ""
  · subst hroot
    obtain rfl : t.home = d := Option.some.inj hd
    rw [Path.join_empty]
  · have hstart : t.start (Path.join root p) = t.home := start_join hrel hp
    obtain ⟨front, hfront, hjoin⟩ := Path.exists_front hroot hp
    have hfollows := t.follows_foldlM t.home (Path.parts front)
    rw [← directory?_front hrel hfront, hd] at hfollows
    rw [hjoin] at hlength hstart ⊢
    have hsum : (front ++ "/" ++ p).utf8ByteSize = (front ++ "/").utf8ByteSize + p.utf8ByteSize :=
      String.utf8ByteSize_append ..
    have hmem : '\x00' ∈ front.toList → '\x00' ∈ p.toList := by
      intro h
      apply hnul
      rcases hfront with hfront | hfront <;> simp [hfront, h]
    apply read_congr
    · simpa using hmem
    · simp [hne]
    · exact hne
    · exact hlength
    · omega
    · cases hfollows with
      | directory hwalk =>
        rw [hstart, start_of_relative hp, Path.parts_append_slash, hwalk]
        exact (walk_withHome d .directory (Path.parts p)).symm

/-- Below a relative root that leads to no directory there is nothing to be read. -/
theorem exists_fault_of_directory? (hd : t.directory? root = none) :
    ∃ fault, t.read (Path.join root p) = .error fault := by
  have hroot : root ≠ "" := by
    intro h
    rw [h] at hd
    cases hd
  obtain ⟨front, hfront, hjoin⟩ := Path.exists_front hroot hp
  have hfollows := t.follows_foldlM t.home (Path.parts front)
  rw [← directory?_front hrel hfront, hd] at hfollows
  cases hfollows with
  | nothing hnone =>
    obtain ⟨fault, hfault⟩ := hnone (Path.parts p) (Path.parts_ne_nil p)
    apply exists_fault_of_walk
    rw [start_join hrel hp, hjoin, Path.parts_append_slash]
    exact hfault

end Relative

private theorem read_join_join (hd : t.directory? root = some d)
    (hlength : (Path.join root (Path.join root p)).utf8ByteSize < nameLimit) :
    t.read (Path.join root (Path.join root p)) = { t with home := d }.read (Path.join root p) := by
  cases habs : Path.isAbsolute root || Path.isAbsolute p with
  | true =>
    have hjoin : Path.isAbsolute (Path.join root p) := by rw [Path.isAbsolute_join, habs]
    rw [Path.join_of_isAbsolute root hjoin]
    exact (read_withHome hjoin d).symm
  | false =>
    obtain ⟨hrel, hp⟩ := Bool.or_eq_false_iff.mp habs
    have hjoin : Path.isAbsolute (Path.join root p) = false := by rw [Path.isAbsolute_join, habs]
    by_cases hroot : root = ""
    · subst hroot
      obtain rfl : t.home = d := Option.some.inj hd
      simp only [Path.join_empty]
    · obtain ⟨front, hfront, hfrontjoin⟩ := Path.exists_front hroot hp
      apply read_join hrel hjoin
      · simp [hfrontjoin]
      · intro h
        rcases hfront with hfront | hfront <;> simp_all
      · exact hlength
      · exact hd

end FileTree

/-- What becomes of a name does not depend on how often it is looked up, nor on where the program
runs. -/
structure Loader.Settles (l : Loader) (p : String) : Prop where
  absolute : Path.isAbsolute (l.locate p)
  again : l.locate (l.locate p) = l.locate p
  sameFile : l.load (l.locate p) = l.load p
  everywhere : ∀ (t : FileTree) (home : List String),
    { t with home }.read (l.locate p) = t.read (l.locate p)

theorem Loader.settles_of_absolute {root p : String}
    (read : String → Logged (Except ReadFault Bytes)) (h : Path.isAbsolute (Path.join root p)) :
    (Loader.rooted root read).Settles p := by
  have hagain : (Loader.rooted root read).locate ((Loader.rooted root read).locate p) =
      (Loader.rooted root read).locate p := Path.join_of_isAbsolute root h
  constructor
  · exact h
  · exact hagain
  · rw [load, load, hagain]
  · intro t home
    exact FileTree.read_withHome h home

/-- A name is settled exactly if it or the root is absolute. A failure names the place that was tried,
and nothing else is read. From a relative root a place is final only if no part of the root leads
anywhere: what is looked up once more is seen from the directory to which the root leads, and nothing is
read if there is none. -/
theorem Loader.settles_iff_absolute (root p : String)
    (read : String → Logged (Except ReadFault Bytes)) :
    let l := Loader.rooted root read
    (l.Settles p ↔ Path.isAbsolute root ∨ Path.isAbsolute p) ∧
    (Path.SamePlace (l.locate (l.locate p)) (l.locate p) ↔
      Path.isAbsolute root ∨ Path.isAbsolute p ∨ Path.names root = []) ∧
    ((l.load p).outcome = (read (l.locate p)).value.mapError (.io (l.locate p)) ∧
      (l.load p).asked = (read (l.locate p)).asked) ∧
    ∀ t : FileTree,
      (∀ d, t.directory? root = some d → (l.locate (l.locate p)).utf8ByteSize < FileTree.nameLimit →
        t.read (l.locate (l.locate p)) = { t with home := d }.read (l.locate p)) ∧
      (Path.isAbsolute root = false → Path.names root = [] → t.directory? root = some t.home) ∧
      (Path.isAbsolute root = false → Path.isAbsolute p = false → t.directory? root = none →
        ∃ fault, t.read (l.locate p) = .error fault) := by
  intro l
  have hjoin : Path.isAbsolute (l.locate p) ↔ Path.isAbsolute root ∨ Path.isAbsolute p := by
    change Path.isAbsolute (Path.join root p) ↔ _
    rw [Path.isAbsolute_join, Bool.or_eq_true]
  refine ⟨?_, Path.samePlace_join_iff root p, ⟨outcome_load l p, asked_load l p⟩, ?_⟩
  · constructor
    · intro h
      exact hjoin.mp h.absolute
    · intro h
      exact settles_of_absolute read (hjoin.mpr h)
  · intro t
    refine ⟨?_, FileTree.directory?_of_names, FileTree.exists_fault_of_directory?⟩
    intro d hd hlength
    exact FileTree.read_join_join hd hlength

/-- Two files of one name, the second below the first one's directory. -/
def nestedFiles : FileTree where
  entries := [(["work", "conf", "list.crl"], some [1]), (["work", "conf", "conf", "list.crl"], some [2])]
  home := ["work"]

theorem Loader.settles_iff_absolute_nestedFiles :
    let l := nestedFiles.loader "conf"
    l.Settles "/work/conf/list.crl" ∧
      nestedFiles.directory? "conf" = some ["work", "conf"] ∧
      nestedFiles.read (l.locate (l.locate "list.crl")) =
        { nestedFiles with home := ["work", "conf"] }.read (l.locate "list.crl") ∧
      nestedFiles.read (l.locate (l.locate "list.crl")) = .ok [2] ∧
      nestedFiles.directory? "." = some ["work"] ∧
      ∃ fault, nestedFiles.read ((nestedFiles.loader "none").locate "list.crl") = .error fault := by
  intro l
  have habsolute := settles_iff_absolute "conf" "/work/conf/list.crl" fun q => pure (nestedFiles.read q)
  have hconf := settles_iff_absolute "conf" "list.crl" fun q => pure (nestedFiles.read q)
  have hdot := settles_iff_absolute "." "list.crl" fun q => pure (nestedFiles.read q)
  have hnone := settles_iff_absolute "none" "list.crl" fun q => pure (nestedFiles.read q)
  refine ⟨habsolute.1.mpr (.inr rfl), by decide, ?_, by decide, ?_, ?_⟩
  · exact (hconf.2.2.2 nestedFiles).1 ["work", "conf"] (by decide) (by decide)
  · exact (hdot.2.2.2 nestedFiles).2.1 (by decide) (by decide)
  · exact (hnone.2.2.2 nestedFiles).2.2 (by decide) (by decide) (by decide)

/-- Settings may give a relative root. Its places are not absolute, and another file is read with every
further look. Where the directory in which the program runs is not known, places are not absolute
either. -/
theorem relative_root_does_not_settle :
    let env : Environment :=
      { diskEnvironment with directory := ".", files := fun q => pure (nestedFiles.read q) }
    let l := ({ root := some "conf" } : Settings).loader env
    (l.locate "list.crl" = "conf/list.crl" ∧ Path.isAbsolute (l.locate "list.crl") = false) ∧
      (l.locate (l.locate "list.crl") = "conf/conf/list.crl" ∧
        ¬ Path.SamePlace (l.locate (l.locate "list.crl")) (l.locate "list.crl")) ∧
      ((l.load "list.crl").outcome = .ok [1] ∧
        (l.load (l.locate "list.crl")).outcome = .ok [2]) ∧
      ¬ l.Settles "list.crl" ∧
      Path.isAbsolute (env.loader.locate "list.crl") = false := by
  intro env l
  have hrel : Path.isAbsolute (l.locate "list.crl") = false := by decide
  have hplace : l.locate "list.crl" = "conf/list.crl" := by decide
  have hagain : l.locate "conf/list.crl" = "conf/conf/list.crl" := by decide
  have houtcome : ∀ path, (l.load path).outcome =
      (nestedFiles.read (l.locate path)).mapError (.io (l.locate path)) := l.outcome_load
  have hfirst : nestedFiles.read "conf/list.crl" = .ok [1] := by decide
  have hsecond : nestedFiles.read "conf/conf/list.crl" = .ok [2] := by decide
  refine ⟨⟨hplace, hrel⟩, ⟨by rw [hplace, hagain], ?_⟩, ⟨?_, ?_⟩, ?_, by decide⟩
  · unfold Path.SamePlace
    decide
  · rw [houtcome, hplace, hfirst]
    rfl
  · rw [houtcome, hplace, hagain, hsecond]
    rfl
  · intro h
    have habsolute := h.absolute
    rw [hrel] at habsolute
    cases habsolute

end TlsSetup
