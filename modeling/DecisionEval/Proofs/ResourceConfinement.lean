/-
Module: DecisionEval.Proofs.ResourceConfinement
Purpose: Lookups in a directory stay below it, whatever the name.
Main exports: IsPart, mem_pathSegments_iff, pathSegments_joinPath, FileTree.walk_append, FileTree.descend,
  ResourceLookup.Confined, ResourceLookup.confined
-/
import DecisionEval.Resource

namespace DecisionEval

variable {path directory name part : String}

/-!
### Parts of paths
-/

theorem splitAtSlashes_eq_splitOn (cs : List Char) : splitAtSlashes cs = cs.splitOn '/' := by
  induction cs with
  | nil => rfl
  | cons c rest inductionHypothesis =>
      obtain ⟨first, others, parts⟩ := List.exists_cons_of_ne_nil (List.splitOn_ne_nil '/' rest)
      rw [List.splitOn_cons_eq_if_modifyHead, splitAtSlashes, inductionHypothesis, parts]
      simp

theorem endsInSlash_eq_true_iff : endsInSlash path = true ↔ ∃ front, path.toList = front ++ ['/'] := by
  simp [endsInSlash, List.getLast?_eq_some_iff]

/-- A text stands somewhere in a path, with a slash or nothing on either side. -/
def IsPart (part path : List Char) : Prop :=
  ∃ before after, path = before ++ part ++ after ∧
    (before = [] ∨ ∃ front, before = front ++ ['/']) ∧ (after = [] ∨ ∃ rest, after = '/' :: rest)

section Parts

variable {part front back cs : List Char}

theorem isPart_self : IsPart cs cs := ⟨[], [], by simp, .inl rfl, .inl rfl⟩

theorem isPart_front : IsPart front (front ++ '/' :: back) :=
  ⟨[], '/' :: back, by simp, .inl rfl, .inr ⟨back, rfl⟩⟩

theorem IsPart.behind (isPart : IsPart part back) : IsPart part (front ++ '/' :: back) := by
  obtain ⟨before, after, rfl, starts, ends⟩ := isPart
  refine ⟨front ++ '/' :: before, after, by simp, .inr ?_, ends⟩
  rcases starts with rfl | ⟨inner, rfl⟩
  · exact ⟨front, rfl⟩
  · exact ⟨front ++ '/' :: inner, by simp⟩

theorem isPart_of_mem_splitOn (member : part ∈ cs.splitOn '/') : '/' ∉ part ∧ IsPart part cs := by
  -- The text behind the first slash is shorter.
  induction size : cs.length using Nat.strongRecOn generalizing cs with
  | ind length inductionHypothesis =>
      by_cases slash : '/' ∈ cs
      · obtain ⟨front, back, rfl, noSlash⟩ := List.eq_append_cons_of_mem slash
        rw [List.splitOn_append_cons_self_of_not_mem noSlash] at member
        rcases List.mem_cons.mp member with rfl | later
        · exact ⟨noSlash, isPart_front⟩
        · have shorter : back.length < length := by simp [← size]; omega
          obtain ⟨noSlash, isPart⟩ := inductionHypothesis back.length shorter later rfl
          exact ⟨noSlash, isPart.behind⟩
      · rw [List.splitOn_eq_singleton slash, List.mem_singleton] at member
        rw [member]
        exact ⟨slash, isPart_self⟩

theorem mem_splitOn_of_isPart (noSlash : '/' ∉ part) (isPart : IsPart part cs) : part ∈ cs.splitOn '/' := by
  obtain ⟨before, after, rfl, starts, ends⟩ := isPart
  have first : part ∈ (part ++ after).splitOn '/' := by
    rcases ends with rfl | ⟨rest, rfl⟩
    · simp [List.splitOn_eq_singleton noSlash]
    · simp [List.splitOn_append_cons_self_of_not_mem noSlash]
  rcases starts with rfl | ⟨front, rfl⟩
  · exact first
  · have whole : front ++ ['/'] ++ part ++ after = front ++ '/' :: (part ++ after) := by simp
    rw [whole, List.splitOn_append_cons_self]
    exact List.mem_append_right _ first

/-- What slashes separate is what stands between them and holds none. -/
theorem mem_splitOn_iff : part ∈ cs.splitOn '/' ↔ '/' ∉ part ∧ IsPart part cs := by
  constructor
  · exact isPart_of_mem_splitOn
  · rintro ⟨noSlash, isPart⟩
    exact mem_splitOn_of_isPart noSlash isPart

end Parts

/-- The segments of a path are its parts that are not empty and hold no slash. -/
theorem mem_pathSegments_iff :
    part ∈ pathSegments path ↔ part ≠ "" ∧ '/' ∉ part.toList ∧ IsPart part.toList path.toList := by
  rw [pathSegments, splitAtSlashes_eq_splitOn, ← mem_splitOn_iff, List.mem_map]
  constructor
  · rintro ⟨cs, member, rfl⟩
    simpa [and_comm] using List.mem_filter.mp member
  · rintro ⟨present, member⟩
    exact ⟨part.toList, List.mem_filter.mpr ⟨member, by simpa using present⟩, String.ofList_toList⟩

theorem pathSegments_of_slash {front back : List Char} (pathEq : path.toList = front ++ '/' :: back) :
    pathSegments path = pathSegments (String.ofList front) ++ pathSegments (String.ofList back) := by
  simp [pathSegments, splitAtSlashes_eq_splitOn, pathEq, List.splitOn_append_cons_self]

/-- The segments of a name in a directory are those of the directory and then those of the name. -/
theorem pathSegments_joinPath (relative : isAbsolutePath name = false) :
    pathSegments (joinPath directory name) = pathSegments directory ++ pathSegments name := by
  have nothing : pathSegments "" = [] := rfl
  rw [joinPath, relative, if_neg Bool.false_ne_true]
  split
  case isTrue closed =>
    rcases Bool.or_eq_true_iff.mp closed with vacant | slash
    · rw [String.isEmpty_iff.mp vacant, nothing, String.empty_append, List.nil_append]
    · obtain ⟨front, directoryEq⟩ := endsInSlash_eq_true_iff.mp slash
      have joined : (directory ++ name).toList = front ++ '/' :: name.toList := by simp [directoryEq]
      have segments : pathSegments directory = _ := pathSegments_of_slash directoryEq
      rw [pathSegments_of_slash joined, segments, String.ofList_toList]
      simp [nothing]
  case isFalse =>
    have joined : (directory ++ "/" ++ name).toList = directory.toList ++ '/' :: name.toList := by simp
    rw [pathSegments_of_slash joined, String.ofList_toList, String.ofList_toList]

/-- A name leads up: two points stand in it as a part of their own. -/
def LeadsUp (name : String) : Prop := IsPart ['.', '.'] name.toList

theorem leadsUp_iff : LeadsUp name ↔ ".." ∈ pathSegments name := by
  rw [mem_pathSegments_iff]
  simp [LeadsUp]

theorem staysBelow_eq_true_iff : staysBelow name = true ↔ isAbsolutePath name = false ∧ ¬LeadsUp name := by
  simp [staysBelow, leadsUp_iff]

/-!
### Walks
-/

namespace FileTree

variable {above : List FileTree} {tree found : FileTree} {front back parts : List String}

/-- Without two points, what is above plays no part. -/
theorem walk_of_notMem (stays : ".." ∉ parts) (above others : List FileTree) (tree : FileTree) :
    walk above tree parts = walk others tree parts := by
  induction parts generalizing above others tree with
  | nil => simp [walk]
  | cons segment rest inductionHypothesis =>
      have notUp : segment ≠ ".." := fun same => stays (same ▸ List.mem_cons_self)
      have below : ".." ∉ rest := fun member => stays (List.mem_cons_of_mem _ member)
      cases tree with
      | file => simp [walk]
      | directory entries =>
          simp only [walk, if_neg notUp]
          split
          · exact inductionHypothesis below above others _
          · split
            · rfl
            · split
              · exact inductionHypothesis below _ _ _
              · rfl

/-- A walk of parts in a row is one walk after the other, if the later parts hold no two points. -/
theorem walk_append (stays : ".." ∉ back) (above : List FileTree) (tree : FileTree) (front : List String) :
    walk above tree (front ++ back) = (do walk [] (← walk above tree front) back) := by
  fun_induction walk above tree front with
  | case1 above tree => exact walk_of_notMem stays above [] tree
  | case2 => rfl
  | case3 above entries rest inductionHypothesis => simpa [walk] using inductionHypothesis
  | case4 entries rest _ inductionHypothesis => simpa [walk] using inductionHypothesis
  | case5 entries rest parent higher _ inductionHypothesis => simpa [walk] using inductionHypothesis
  | case6 above entries segment rest notHere notUp tooLong =>
      simp only [List.cons_append, walk, if_neg notHere, if_neg notUp, if_pos tooLong]
      rfl
  | case7 above entries segment rest notHere notUp fits next entry inductionHypothesis =>
      simp only [List.cons_append, walk, if_neg notHere, if_neg notUp, if_neg fits, entry]
      exact inductionHypothesis
  | case8 above entries segment rest notHere notUp fits missing =>
      simp only [List.cons_append, walk, if_neg notHere, if_neg notUp, if_neg fits, missing]
      rfl

/-- The tree below a tree at names of entries, each in the directory before it. -/
def descend : List String → FileTree → Option FileTree
  | [], tree => some tree
  | name :: rest, tree => (Entries.find? name tree.entries).bind (descend rest)

/-- A walk without two points descends along the parts that are no single points. -/
theorem descend_of_walk (stays : ".." ∉ parts) (walked : walk above tree parts = .ok found) :
    descend (parts.filter (· ≠ ".")) tree = some found := by
  fun_induction walk above tree parts with
  | case1 above tree =>
      cases walked
      rfl
  | case2 => cases walked
  | case3 above entries rest inductionHypothesis =>
      exact inductionHypothesis (fun member => stays (List.mem_cons_of_mem _ member)) walked
  | case4 => exact absurd List.mem_cons_self stays
  | case5 => exact absurd List.mem_cons_self stays
  | case6 => cases walked
  | case7 above entries segment rest notHere notUp fits next entry inductionHypothesis =>
      rw [List.filter_cons_of_pos (by simpa using notHere), descend, FileTree.entries, entry]
      exact inductionHypothesis (fun member => stays (List.mem_cons_of_mem _ member)) walked
  | case8 => cases walked

theorem read_congr {others : FileTree}
    (same : walk [] tree (pathSegments path) = walk [] others (pathSegments path)) :
    tree.read path = others.read path := by
  simp only [read, same]

/-- What is read is the content of the file that the path leads to. The path is not empty and ends in no slash. -/
theorem walk_of_read {content : List UInt8} (readOk : tree.read path = .ok content) :
    path ≠ "" ∧ endsInSlash path = false ∧ walk [] tree (pathSegments path) = .ok (.file content) := by
  simp only [read, bind, Except.bind, throw, throwThe, MonadExceptOf.throw, pure, Except.pure] at readOk
  split at readOk
  case isTrue => cases readOk
  case isFalse =>
    split at readOk
    case isTrue => cases readOk
    case isFalse =>
      split at readOk
      case isTrue => cases readOk
      case isFalse present =>
        refine ⟨fun vacant => present (String.isEmpty_iff.mpr vacant), ?_⟩
        split at readOk
        case h_1 => cases readOk
        case h_2 found walked =>
          split at readOk
          case h_1 stored =>
            split at readOk
            case isTrue => cases readOk
            case isFalse noSlash =>
              cases readOk
              exact ⟨Bool.eq_false_iff.mpr noSlash, walked⟩
          case h_2 => cases readOk

end FileTree

/-!
### Lookups
-/

/-- The parts of a name that are names of entries: no single points. -/
def normalParts (name : String) : List String := (pathSegments name).filter (· ≠ ".")

theorem eq_empty_of_pathSegments (relative : isAbsolutePath name = false) (nothing : pathSegments name = []) :
    name = "" := by
  rw [← String.toList_eq_nil_iff]
  cases nameEq : name.toList with
  | nil => rfl
  | cons c rest =>
      have noSlash : c ≠ '/' := by simpa [isAbsolutePath, nameEq] using relative
      obtain ⟨first, others, parts⟩ := List.exists_cons_of_ne_nil (List.splitOn_ne_nil '/' rest)
      simp [pathSegments, splitAtSlashes_eq_splitOn, nameEq, List.splitOn_cons_eq_if_modifyHead, noSlash,
        parts] at nothing

theorem joinPath_empty (directory : String) :
    joinPath directory "" = "" ∨ endsInSlash (joinPath directory "") = true := by
  have relative : isAbsolutePath "" = false := rfl
  rw [joinPath, relative, if_neg Bool.false_ne_true, String.append_empty]
  split
  case isTrue closed =>
    exact (Bool.or_eq_true_iff.mp closed).imp_left String.isEmpty_iff.mp
  case isFalse => exact .inr (endsInSlash_eq_true_iff.mpr ⟨directory.toList, by simp⟩)

namespace ResourceLookup

/-- A directory leads to the same tree in two file systems, or to the same failure. -/
def AgreeBelow (directory : String) (files others : FileTree) : Prop :=
  files.walk [] (pathSegments directory) = others.walk [] (pathSegments directory)

/-- What a lookup in a directory answers has to do with nothing outside of it.

* `agrees`: two file systems that agree on the directory and everything below it answer every name alike.
* `absolute`, `up`: a name that starts at the top, or has two points as a part of its own, is answered with
  nothing in every file system.
* `below`: bytes that answer any other name are the content of the file that is reached from the directory by
  the normal parts of the name, of which there is one at least. -/
structure Confined (directory : String) : Prop where
  agrees : ∀ files others, AgreeBelow directory files others → ∀ name,
    (inDirectory files directory).find name = (inDirectory others directory).find name
  absolute : ∀ files name, isAbsolutePath name = true → (inDirectory files directory).find name = .ok none
  up : ∀ files name, LeadsUp name → (inDirectory files directory).find name = .ok none
  below : ∀ files name content, (inDirectory files directory).find name = .ok (some content) →
    ∃ root, files.walk [] (pathSegments directory) = .ok root ∧ normalParts name ≠ [] ∧
      FileTree.descend (normalParts name) root = some (.file content)

variable {files others : FileTree} {content : List UInt8}

theorem find_of_not_staysBelow (leaves : staysBelow name = false) :
    (inDirectory files directory).find name = .ok none := by
  simp [inDirectory, leaves]

theorem find_eq_some_iff : (inDirectory files directory).find name = .ok (some content) ↔
    staysBelow name = true ∧ files.read (joinPath directory name) = .ok content := by
  cases stays : staysBelow name with
  | false => simp [inDirectory, stays]
  | true =>
      simp only [inDirectory, stays, if_true, true_and]
      split
      case h_1 found => simp [found]
      case h_2 found => simp [found]
      case h_3 found => simp [found]

theorem notMem_of_not_leadsUp (stays : ¬LeadsUp name) : ".." ∉ pathSegments name :=
  fun member => stays (leadsUp_iff.mpr member)

/-- A name that stays below leads from the directory on. -/
theorem walk_joinPath (stays : staysBelow name = true) (files : FileTree) (directory : String) :
    files.walk [] (pathSegments (joinPath directory name)) =
      (do FileTree.walk [] (← files.walk [] (pathSegments directory)) (pathSegments name)) := by
  obtain ⟨relative, notUp⟩ := staysBelow_eq_true_iff.mp stays
  rw [pathSegments_joinPath relative, FileTree.walk_append (notMem_of_not_leadsUp notUp)]

theorem find_eq_of_agreeBelow (agree : AgreeBelow directory files others) (name : String) :
    (inDirectory files directory).find name = (inDirectory others directory).find name := by
  cases stays : staysBelow name with
  | false => rw [find_of_not_staysBelow stays, find_of_not_staysBelow stays]
  | true =>
      have same : files.read (joinPath directory name) = others.read (joinPath directory name) := by
        apply FileTree.read_congr
        rw [walk_joinPath stays, walk_joinPath stays, agree]
      simp only [inDirectory, same]

/-- The bytes of a name are those of a file to which the name leads from the directory. -/
theorem exists_root_of_find (found : (inDirectory files directory).find name = .ok (some content)) :
    ∃ root, files.walk [] (pathSegments directory) = .ok root ∧
      root.walk [] (pathSegments name) = .ok (.file content) := by
  obtain ⟨stays, readOk⟩ := find_eq_some_iff.mp found
  obtain ⟨-, -, walked⟩ := FileTree.walk_of_read readOk
  rw [walk_joinPath stays] at walked
  cases rootEq : files.walk [] (pathSegments directory) with
  | error cause =>
      rw [rootEq] at walked
      cases walked
  | ok root =>
      rw [rootEq] at walked
      exact ⟨root, rfl, walked⟩

theorem descend_of_find (found : (inDirectory files directory).find name = .ok (some content)) :
    ∃ root, files.walk [] (pathSegments directory) = .ok root ∧ normalParts name ≠ [] ∧
      FileTree.descend (normalParts name) root = some (.file content) := by
  obtain ⟨root, rootEq, walked⟩ := exists_root_of_find found
  obtain ⟨stays, readOk⟩ := find_eq_some_iff.mp found
  obtain ⟨relative, notUp⟩ := staysBelow_eq_true_iff.mp stays
  have descended : FileTree.descend (normalParts name) root = some (.file content) :=
    FileTree.descend_of_walk (notMem_of_not_leadsUp notUp) walked
  refine ⟨root, rootEq, ?_, descended⟩
  intro nothing
  -- Then the directory is the file. A part of the name would not lead on from it, and without parts the path
  -- is empty or ends in a slash.
  rw [nothing] at descended
  cases descended
  cases segments : pathSegments name with
  | cons segment rest =>
      rw [segments] at walked
      cases walked
  | nil =>
      obtain ⟨present, noSlash, -⟩ := FileTree.walk_of_read readOk
      rw [eq_empty_of_pathSegments relative segments] at present noSlash
      rcases joinPath_empty directory with vacant | slash
      · exact present vacant
      · rw [slash] at noSlash
        cases noSlash

/-- A lookup in a directory is confined to it, whatever the directory. -/
theorem confined (directory : String) : Confined directory := by
  constructor
  case agrees =>
    intro files others agree name
    exact find_eq_of_agreeBelow agree name
  case absolute =>
    intro files name starts
    apply find_of_not_staysBelow
    simp [staysBelow, starts]
  case up =>
    intro files name leads
    apply find_of_not_staysBelow
    rw [Bool.eq_false_iff, ne_eq, staysBelow_eq_true_iff]
    exact fun stays => stays.2 leads
  case below =>
    intro files name content found
    exact descend_of_find found

end ResourceLookup

end DecisionEval
