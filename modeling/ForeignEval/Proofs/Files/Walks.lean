import ForeignEval.Files.Tree

/-!
# Walking on

A path below another is walked by walking the other first and going on from there. One can only go
on from a directory: where there is nothing or a file, more names are a fault, and where there was a
fault, it stays.

* **Names** — `Path.exists_steps_join`: the names of a path below a directory are those of the
  directory and some more.
* **Walks** — `Tree.walk_append`: how a walk goes on.
* **Paths** — `Tree.kind_join_of_blocked`: nothing is found below a path that does not exist, and
  below a file.
-/

namespace ForeignEval.Files

/-! ## Names -/

namespace Path

variable {directory name : Path}

theorem names_append_slash (front back : List UInt8) :
    (⟨front ++ slash :: back⟩ : Path).names = (⟨front⟩ : Path).names ++ (⟨back⟩ : Path).names := by
  unfold names
  rw [List.splitOn_append_cons_self, List.filter_append]

/-- A relative path that is not empty has a name in it. -/
theorem names_ne_nil (relative : name.isAbsolute = false) (written : name.bytes ≠ []) :
    name.names ≠ [] := by
  cases bytes : name.bytes with
  | nil => exact absurd bytes written
  | cons first others =>
    have apart : (first == slash) = false := by
      rw [beq_eq_false_iff_ne]
      intro same
      unfold isAbsolute at relative
      rw [bytes, same, List.head?_cons, decide_eq_false_iff_not] at relative
      exact relative rfl
    unfold names
    rw [bytes, List.splitOn_cons_eq_if_modifyHead, apart]
    cases parts : others.splitOn slash with
    | nil => exact absurd parts (List.splitOn_ne_nil _ _)
    | cons part parts => simp

/-- How a relative name is written below a directory that is itself written out. -/
theorem exists_bytes_join (relative : name.isAbsolute = false) (written : directory.bytes ≠ []) :
    ∃ front, (directory.join name).bytes = front ++ slash :: name.bytes ∧
      (⟨front⟩ : Path).names = directory.names := by
  unfold join
  by_cases ends : directory.endsInSlash = true
  · have last : directory.bytes.getLast? = some slash := decide_eq_true_iff.1 ends
    obtain ⟨front, bytes⟩ := List.getLast?_eq_some_iff.1 last
    have whole : directory = ⟨front ++ slash :: []⟩ := congrArg Path.mk bytes
    refine ⟨front, ?_, ?_⟩
    · simp [relative, ends, bytes]
    · rw [whole, names_append_slash]
      exact (List.append_nil _).symm
  · refine ⟨directory.bytes, ?_, rfl⟩
    simp [relative, ends, written]

/-- A path below a directory is walked over the names of the directory and at least one more. -/
theorem exists_steps_join (relative : name.isAbsolute = false) (written : directory.bytes ≠ []) :
    ∃ more, more ≠ [] ∧ Tree.steps (directory.join name) = directory.names ++ more := by
  obtain ⟨front, bytes, same⟩ := exists_bytes_join relative written
  have names : (directory.join name).names = directory.names ++ name.names := by
    rw [← same, ← names_append_slash, ← bytes]
  refine ⟨name.names ++ if (directory.join name).endsInSlash then [Name.here] else [], ?_, ?_⟩
  · intro none
    obtain ⟨unnamed, last⟩ := List.append_eq_nil_iff.1 none
    -- the name is empty then, so that the path ends in a slash
    have empty : name.bytes = [] :=
      Decidable.byContradiction fun written => names_ne_nil relative written unnamed
    have ends : (directory.join name).endsInSlash = true := by
      unfold endsInSlash
      rw [bytes, empty]
      simp
    rw [ends] at last
    exact List.cons_ne_nil _ _ last
  · unfold Tree.steps
    rw [names, List.append_assoc]

theorem isAbsolute_join (relative : name.isAbsolute = false) (written : directory.bytes ≠ []) :
    (directory.join name).isAbsolute = directory.isAbsolute := by
  unfold join isAbsolute at *
  cases bytes : directory.bytes with
  | nil => exact absurd bytes written
  | cons first others =>
    rw [relative]
    simp only [Bool.false_eq_true, if_false]
    split <;> rfl

end Path

/-! ## Walks -/

namespace Tree

/-- What a walk arrives at, if anything is there. -/
def arrival : Except Fault (Place × Option Entry) → Except Fault (Place × Entry)
  | .ok (place, some entry) => .ok (place, entry)
  | .ok (_, none) => .error .notFound
  | .error fault => .error fault

/-- What a path that leads there tells of it. -/
def kindAt : Except Fault (Place × Entry) → Except Fault Kind
  | .ok (_, .file _) => .ok .file
  | .ok _ => .ok .other
  | .error fault => .error fault

/-- What the end of a walk tells of its path. -/
def kindOf (walked : Except Fault (Place × Option Entry)) : Except Fault Kind :=
  kindAt (arrival walked)

/-- The fault that every longer path meets. -/
def inTheWay? : Except Fault Kind → Option Fault
  | .ok .file => some .notADirectory
  | .ok .other => none
  | .error fault => some fault

/-- How a walk goes on from a directory to a place below it, by what is there. -/
def enter (tree : Tree) (links : Nat) (directory place : Place) (names : List Name) :
    Option Entry → Except Fault (Place × Option Entry)
  | none => if names.isEmpty then .ok (place, none) else .error .notFound
  | some .directory => tree.walk links place names
  | some (.file bytes) =>
    if names.isEmpty then .ok (place, some (.file bytes)) else .error .notADirectory
  | some (.link target) =>
    match links with
    | 0 => .error .tooManyLinks
    | links + 1 =>
      tree.walk links (if target.isAbsolute then [] else directory) (steps target ++ names)

section

variable {tree : Tree} {links : Nat} {directory : Place} {name : Name} {names : List Name}
  {text : String}

/-- A step over a name that is written in the directory. -/
theorem walk_named (here : name ≠ Name.here) (up : name ≠ Name.up)
    (short : ¬nameLimit < name.length) (readable : Text.Utf8.decode? name = some text) :
    tree.walk links directory (name :: names) =
      tree.enter links directory (directory ++ [text]) names
        (tree.entry? (directory ++ [text])) := by
  rw [walk, if_neg here, if_neg up, if_neg short, readable]
  dsimp only
  cases tree.entry? (directory ++ [text]) with
  | none => rfl
  | some entry =>
    cases entry with
    | directory | file => rfl
    | link target => cases links <;> rfl

end

/-- A walk goes on where it has ended, unless something is in the way. -/
theorem walk_append (tree : Tree) (links : Nat) (start : Place) (names : List Name) :
    (∃ fault, inTheWay? (kindOf (tree.walk links start names)) = some fault ∧
      ∀ more, more ≠ [] → tree.walk links start (names ++ more) = .error fault) ∨
    ∃ place left, tree.walk links start names = .ok (place, some .directory) ∧
      ∀ more, tree.walk links start (names ++ more) = tree.walk left place more := by
  induction links, start, names using walk.induct (tree) with
  | case1 links directory =>
    exact .inr ⟨directory, links, by rw [walk], fun more => rfl⟩
  | case2 links directory names ih =>
    have step (names : List Name) :
        tree.walk links directory (Name.here :: names) = tree.walk links directory names := by
      rw [walk, if_pos rfl]
    simpa only [List.cons_append, step] using ih
  | case3 links directory names apart ih =>
    have step (names : List Name) :
        tree.walk links directory (Name.up :: names) =
          tree.walk links directory.dropLast names := by
      rw [walk, if_neg apart, if_pos rfl]
    simpa only [List.cons_append, step] using ih
  | case4 links directory name names here up long =>
    have step (names : List Name) :
        tree.walk links directory (name :: names) = .error .nameTooLong := by
      rw [walk, if_neg here, if_neg up, if_pos long]
    exact .inl ⟨_, by rw [step]; rfl, fun more _ => step _⟩
  | case5 links directory name names here up short unreadable =>
    have step (names : List Name) :
        tree.walk links directory (name :: names) = .error .notFound := by
      rw [walk, if_neg here, if_neg up, if_neg short, unreadable]
    exact .inl ⟨_, by rw [step]; rfl, fun more _ => step _⟩
  | case6 links directory name names here up short text readable place absent last =>
    cases List.isEmpty_iff.1 last
    refine .inl ⟨.notFound, ?_, ?_⟩
    · rw [walk_named here up short readable, absent]
      rfl
    · intro more some
      rw [List.cons_append, walk_named here up short readable, absent]
      exact if_neg (by simpa using some)
  | case7 links directory name names here up short text readable place absent others =>
    have step (more : List Name) :
        tree.walk links directory (name :: (names ++ more)) = .error .notFound := by
      rw [walk_named here up short readable, absent]
      exact if_neg (by simp_all)
    refine .inl ⟨.notFound, ?_, fun more _ => step more⟩
    rw [← List.append_nil names, step]
    rfl
  | case8 links directory name names here up short text readable place found ih =>
    have step (names : List Name) :
        tree.walk links directory (name :: names) = tree.walk links place names := by
      rw [walk_named here up short readable, found]
      rfl
    simpa only [List.cons_append, step] using ih
  | case9 links directory name names here up short text readable place bytes found last =>
    cases List.isEmpty_iff.1 last
    refine .inl ⟨.notADirectory, ?_, ?_⟩
    · rw [walk_named here up short readable, found]
      rfl
    · intro more some
      rw [List.cons_append, walk_named here up short readable, found]
      exact if_neg (by simpa using some)
  | case10 links directory name names here up short text readable place bytes found others =>
    have step (more : List Name) :
        tree.walk links directory (name :: (names ++ more)) = .error .notADirectory := by
      rw [walk_named here up short readable, found]
      exact if_neg (by simp_all)
    refine .inl ⟨.notADirectory, ?_, fun more _ => step more⟩
    rw [← List.append_nil names, step]
    rfl
  | case11 directory name names here up short text readable place target found =>
    have step (names : List Name) :
        tree.walk 0 directory (name :: names) = .error .tooManyLinks := by
      rw [walk_named here up short readable, found]
      rfl
    exact .inl ⟨_, by rw [step]; rfl, fun more _ => step _⟩
  | case12 directory name names here up short text readable place target found links ih =>
    have step (names : List Name) :
        tree.walk (links + 1) directory (name :: names) =
          tree.walk links (if target.isAbsolute then [] else directory) (steps target ++ names) := by
      rw [walk_named here up short readable, found]
      rfl
    simpa only [List.cons_append, step, List.append_assoc, dite_eq_ite] using ih

/-! ## Paths -/

/-- Where the walk of a path starts. -/
def origin (tree : Tree) (path : Path) : Place :=
  if path.isAbsolute then [] else tree.workingDirectory

section

variable {tree : Tree} {path directory name : Path} {fault : Fault}

theorem kind_eq_kindAt (tree : Tree) (path : Path) :
    tree.disk.kind path = kindAt (tree.resolve path) := by
  unfold disk
  dsimp only
  cases tree.resolve path with
  | error fault => rfl
  | ok reached =>
    obtain ⟨place, entry⟩ := reached
    cases entry <;> rfl

/-- A path tells of what its walk finds. -/
theorem kind_eq_kindOf (clean : path.bytes.contains 0 = false) (written : path.bytes ≠ [])
    (short : path.bytes.length < pathLimit) :
    tree.disk.kind path = kindOf (tree.walk linkLimit (tree.origin path) (steps path)) := by
  have unwritten : ¬path.bytes.isEmpty = true := by simpa using written
  have within : ¬pathLimit ≤ path.bytes.length := Nat.not_le.2 short
  rw [kind_eq_kindAt, resolve, clean, if_neg Bool.false_ne_true, if_neg unwritten, if_neg within]
  rfl

/-- A path that can be walked at all tells of what its walk finds. -/
theorem kind_eq (written : path.bytes ≠ []) (clean : tree.disk.kind path ≠ .error .nulInPath)
    (short : tree.disk.kind path ≠ .error .nameTooLong) :
    tree.disk.kind path = kindOf (tree.walk linkLimit (tree.origin path) (steps path)) := by
  rw [kind_eq_kindAt] at clean short
  cases nul : path.bytes.contains 0 with
  | true =>
    rw [resolve, nul, if_pos rfl] at clean
    exact absurd rfl clean
  | false =>
    by_cases long : pathLimit ≤ path.bytes.length
    · have unwritten : ¬path.bytes.isEmpty = true := by simpa using written
      rw [resolve, nul, if_neg Bool.false_ne_true, if_neg unwritten, if_pos long] at short
      exact absurd rfl short
    · exact kind_eq_kindOf nul written (Nat.not_le.1 long)

/-- A slash at the end of a path does not change what is in the way of longer ones. -/
theorem inTheWay_of_names (blocked : inTheWay? (kindOf (tree.walk linkLimit (tree.origin path)
      (steps path))) = some fault) {more : List Name} (further : more ≠ []) :
    tree.walk linkLimit (tree.origin path) (path.names ++ more) = .error fault := by
  unfold steps at blocked
  rcases tree.walk_append linkLimit (tree.origin path) path.names with
    ⟨found, same, onward⟩ | ⟨place, left, reached, onward⟩
  · have whole : found = fault := by
      by_cases ends : path.endsInSlash = true
      · rw [if_pos ends, onward [Name.here] (List.cons_ne_nil _ _)] at blocked
        exact Option.some.inj blocked
      · rw [if_neg ends, List.append_nil, same] at blocked
        exact Option.some.inj blocked
    rw [onward more further, whole]
  · -- nothing is in the way of a directory
    have still : tree.walk left place [Name.here] = .ok (place, some .directory) := by
      rw [walk, if_pos rfl, walk]
    by_cases ends : path.endsInSlash = true
    · rw [if_pos ends, onward, still] at blocked
      cases blocked
    · rw [if_neg ends, List.append_nil, reached] at blocked
      cases blocked

/-- What is in the way of a directory is in the way of everything below it. -/
theorem kind_join_of_blocked (relative : name.isAbsolute = false) (written : directory.bytes ≠ [])
    (blocked : inTheWay? (tree.disk.kind directory) = some fault)
    (ordinary : fault = .notFound ∨ fault = .notADirectory)
    (clean : tree.disk.kind (directory.join name) ≠ .error .nulInPath)
    (short : tree.disk.kind (directory.join name) ≠ .error .nameTooLong) :
    tree.disk.kind (directory.join name) = .error fault := by
  obtain ⟨front, bytes, -⟩ := Path.exists_bytes_join relative written
  obtain ⟨more, further, steps⟩ := Path.exists_steps_join relative written
  have same : tree.origin (directory.join name) = tree.origin directory := by
    unfold origin
    rw [Path.isAbsolute_join relative written]
  have named : (directory.join name).bytes ≠ [] := by
    rw [bytes]
    exact List.append_ne_nil_of_right_ne_nil _ (List.cons_ne_nil _ _)
  have walked : tree.disk.kind directory =
      kindOf (tree.walk linkLimit (tree.origin directory) (Tree.steps directory)) := by
    refine kind_eq written ?_ ?_
    · intro nul
      rw [nul] at blocked
      rcases ordinary with rfl | rfl <;> cases blocked
    · intro long
      rw [long] at blocked
      rcases ordinary with rfl | rfl <;> cases blocked
  rw [walked] at blocked
  rw [kind_eq named clean short, steps, same, inTheWay_of_names blocked further]
  rfl

end

end Tree

end ForeignEval.Files
