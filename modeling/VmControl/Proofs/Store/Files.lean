import VmControl.Store.FileSystem

/-!
# What the operations of a file system do

A path is walked through its directories, and what is found at its end depends on nothing else
(`FileSystem.walk_eq_ok_iff`). So a file that can be read can be read again as long as the
directories that lead to it and its own node stay, whatever else becomes of the file system
(`FileSystem.read_eq_ok_iff`).

Every operation that changes the file system is described by the nodes that it changes. A file
system has no gaps: only directories lead to what is in it (`FileSystem.Rooted`), and the operations
on plain files and directories keep it so.
-/

namespace VmControl

namespace FileSystem

variable {fs fs' : FileSystem} {dir done : Path} {name : String} {text : String}

/-- All that leads to a file is a directory, and no name on the way is too long. -/
structure LeadsTo (fs : FileSystem) (dir : Path) (name : String) : Prop where
  dirs : ∀ q, q <+: dir → fs.find? q = some .dir
  short : ∀ c ∈ dir ++ [name], c.utf8ByteSize ≤ nameLimit

theorem LeadsTo.mono (leads : fs.LeadsTo dir name)
    (still : ∀ q, q <+: dir → fs.find? q = some .dir → fs'.find? q = some .dir) :
    fs'.LeadsTo dir name :=
  ⟨fun q before => still q before (leads.dirs q before), leads.short⟩

/-- One step of a walk: from a directory, to what is there unless it is the last one. -/
theorem walk_cons_iff {c : String} {rest : List String} {node : Option Node} :
    fs.walk done (c :: rest) = .ok node ↔
      fs.find? done = some .dir ∧ c.utf8ByteSize ≤ nameLimit ∧
      (rest ≠ [] → fs.find? (done ++ [c]) ≠ none) ∧ fs.walk (done ++ [c]) rest = .ok node := by
  rw [walk.eq_def]
  dsimp only
  split
  · next here =>
    by_cases long : nameLimit < c.utf8ByteSize
    · rw [if_pos long]
      exact ⟨nofun, fun ⟨_, short, _⟩ => absurd long (Nat.not_lt_of_le short)⟩
    · rw [if_neg long]
      split
      · next none => exact ⟨nofun, fun ⟨_, _, there, _⟩ => absurd none (there nofun)⟩
      · next other =>
        refine ⟨fun walked => ⟨here, Nat.le_of_not_lt long, fun more none => ?_, walked⟩,
          fun walked => walked.2.2.2⟩
        obtain ⟨d, others, split⟩ := List.exists_cons_of_ne_nil more
        exact other d others split none
  · next found other =>
    exact ⟨nofun, fun ⟨here, _⟩ => absurd (Option.some.inj (other.symm.trans here)) found⟩
  · next none => exact ⟨nofun, fun ⟨here, _⟩ => nomatch none.symm.trans here⟩

theorem walk_eq_ok_iff {rest : List String} {node : Option Node} :
    fs.walk done (rest ++ [name]) = .ok node ↔
      (∀ q, q <+: rest → fs.find? (done ++ q) = some .dir) ∧
      (∀ c ∈ rest ++ [name], c.utf8ByteSize ≤ nameLimit) ∧
      node = fs.find? (done ++ (rest ++ [name])) := by
  induction rest generalizing done with
  | nil =>
    have last : fs.walk (done ++ [name]) [] = .ok node ↔ node = fs.find? (done ++ [name]) :=
      ⟨fun walked => (Except.ok.inj walked).symm, fun found => congrArg Except.ok found.symm⟩
    rw [List.nil_append, walk_cons_iff, last, List.forall_mem_singleton]
    constructor
    · rintro ⟨here, short, -, found⟩
      refine ⟨fun q before => ?_, short, found⟩
      rw [List.prefix_nil.mp before, List.append_nil]
      exact here
    · rintro ⟨dirs, short, found⟩
      have here := dirs [] (List.prefix_refl _)
      rw [List.append_nil] at here
      exact ⟨here, short, nofun, found⟩
  | cons c rest ih =>
    have onward : done ++ [c] ++ (rest ++ [name]) = done ++ (c :: rest ++ [name]) := by
      simp only [List.append_assoc, List.cons_append, List.nil_append]
    rw [List.cons_append, walk_cons_iff, ih, List.forall_mem_cons, onward, List.cons_append]
    constructor
    · rintro ⟨here, first, -, dirs, short, found⟩
      refine ⟨fun q before => ?_, ⟨first, short⟩, found⟩
      cases q with
      | nil => rwa [List.append_nil]
      | cons e q =>
        obtain ⟨rfl, within⟩ := List.cons_prefix_cons.mp before
        have later := dirs q within
        rwa [List.append_assoc, List.singleton_append] at later
    · rintro ⟨dirs, ⟨first, short⟩, found⟩
      have here := dirs [] List.nil_prefix
      have there := dirs [c] (List.cons_prefix_cons.mpr ⟨rfl, List.nil_prefix⟩)
      rw [List.append_nil] at here
      refine ⟨here, first, fun _ none => ?_, fun q before => ?_, short, found⟩
      · rw [there] at none
        cases none
      · have later := dirs (c :: q) (List.cons_prefix_cons.mpr ⟨rfl, before⟩)
        rwa [List.append_assoc, List.singleton_append]

/-- Whoever walks to a file finds its node, if all that leads to it is there. -/
theorem walk_file_iff {node : Option Node} :
    fs.walk [] (dir ++ [name]) = .ok node ↔
      fs.LeadsTo dir name ∧ node = fs.find? (dir ++ [name]) := by
  rw [walk_eq_ok_iff]
  simp only [List.nil_append]
  exact ⟨fun ⟨dirs, short, found⟩ => ⟨⟨dirs, short⟩, found⟩,
    fun ⟨leads, found⟩ => ⟨leads.dirs, leads.short, found⟩⟩

theorem get_eq_ok_iff {node : Node} :
    fs.get (dir ++ [name]) = .ok node ↔
      fs.LeadsTo dir name ∧ fs.find? (dir ++ [name]) = some node := by
  constructor
  · intro got
    unfold get at got
    split at got
    · cases got
    · cases got
    · next found walked =>
      cases got
      obtain ⟨leads, same⟩ := walk_file_iff.mp walked
      exact ⟨leads, same.symm⟩
  · rintro ⟨leads, found⟩
    rw [get, walk_file_iff.mpr ⟨leads, rfl⟩, found]

/-- A text that is read from a file stands there; a device gives none. -/
theorem read_eq_ok_iff :
    fs.read (dir ++ [name]) = .ok text ↔
      fs.LeadsTo dir name ∧ (fs.find? (dir ++ [name]) = some (.file text) ∨
        text = "" ∧ ∃ number mode uid gid,
          fs.find? (dir ++ [name]) = some (.block number mode uid gid)) := by
  constructor
  · intro text
    unfold read at text
    split at text
    · cases text
    · next got =>
      cases text
      obtain ⟨leads, found⟩ := get_eq_ok_iff.mp got
      exact ⟨leads, Or.inl found⟩
    · cases text
    · next number mode uid gid got =>
      cases text
      obtain ⟨leads, found⟩ := get_eq_ok_iff.mp got
      exact ⟨leads, Or.inr ⟨rfl, number, mode, uid, gid, found⟩⟩
  · rintro ⟨leads, found | ⟨rfl, number, mode, uid, gid, found⟩⟩
    · rw [read, get_eq_ok_iff.mpr ⟨leads, found⟩]
    · rw [read, get_eq_ok_iff.mpr ⟨leads, found⟩]

/-- Where only directories are on the way, a walk comes to its last name or ends at one that is
missing. -/
theorem walk_passable {rest : List String}
    (passable : ∀ q, q <+: rest → fs.find? (done ++ q) = some .dir ∨ fs.find? (done ++ q) = none)
    (short : ∀ c ∈ rest, c.utf8ByteSize ≤ nameLimit) :
    fs.walk done (rest ++ [name]) = fs.walk (done ++ rest) [name] ∨
      fs.walk done (rest ++ [name]) = .error .notFound := by
  induction rest generalizing done with
  | nil => exact Or.inl (by rw [List.nil_append, List.append_nil])
  | cons c rest ih =>
    obtain ⟨first, others⟩ := List.forall_mem_cons.mp short
    have here := passable [] List.nil_prefix
    rw [List.append_nil] at here
    rw [List.append_cons done, List.cons_append, walk.eq_def]
    rcases here with dir | none
    · simp only [dir, if_neg (Nat.not_lt_of_le first)]
      split
      · exact Or.inr rfl
      · refine ih (fun q before => ?_) others
        have there := passable (c :: q) (List.cons_prefix_cons.mpr ⟨rfl, before⟩)
        rwa [← List.append_cons]
    · right
      simp only [none]

/-- Where only directories may lead to a file that is not there, a walk to it ends at nothing or at
a directory that is missing. -/
theorem walk_missing {rest : List String}
    (passable : ∀ q, q <+: rest → fs.find? (done ++ q) = some .dir ∨ fs.find? (done ++ q) = none)
    (short : ∀ c ∈ rest ++ [name], c.utf8ByteSize ≤ nameLimit)
    (missing : fs.find? (done ++ (rest ++ [name])) = none) :
    fs.walk done (rest ++ [name]) = .ok none ∨
      fs.walk done (rest ++ [name]) = .error .notFound := by
  have last : name.utf8ByteSize ≤ nameLimit := short name (by simp)
  have others : ∀ c ∈ rest, c.utf8ByteSize ≤ nameLimit := (List.forall_mem_append.mp short).1
  rcases walk_passable passable others with onward | ended
  · rw [onward, walk.eq_def]
    rcases passable rest (List.prefix_refl _) with dir | none
    · left
      simp only [dir, if_neg (Nat.not_lt_of_le last)]
      rw [walk, List.append_assoc, missing]
    · right
      simp only [none]
  · exact Or.inr ended

/-- A file that is not there cannot be read, unless something else stands in the way. -/
theorem read_missing (passable : ∀ q, q <+: dir → fs.find? q = some .dir ∨ fs.find? q = none)
    (short : ∀ c ∈ dir ++ [name], c.utf8ByteSize ≤ nameLimit)
    (missing : fs.find? (dir ++ [name]) = none) : fs.read (dir ++ [name]) = .error .notFound := by
  have got : fs.get (dir ++ [name]) = .error .notFound := by
    have walk : fs.walk [] (dir ++ [name]) = .ok none ∨
        fs.walk [] (dir ++ [name]) = .error .notFound :=
      walk_missing passable short missing
    rcases walk with walked | walked <;> rw [get, walked]
  rw [read, got]

/-! ## What a reader depends on -/

/-- A walk depends on nothing but the nodes that it passes. -/
theorem walk_congr {rest : List String}
    (same : ∀ q, q <+: rest → fs'.find? (done ++ q) = fs.find? (done ++ q)) :
    fs'.walk done rest = fs.walk done rest := by
  induction rest generalizing done with
  | nil =>
    have here := same [] List.nil_prefix
    rw [List.append_nil] at here
    rw [walk, walk, here]
  | cons c rest ih =>
    have here := same [] List.nil_prefix
    have there := same [c] (List.cons_prefix_cons.mpr ⟨rfl, List.nil_prefix⟩)
    have onward : fs'.walk (done ++ [c]) rest = fs.walk (done ++ [c]) rest := by
      refine ih fun q before => ?_
      have later := same (c :: q) (List.cons_prefix_cons.mpr ⟨rfl, before⟩)
      rwa [← List.append_cons]
    rw [List.append_nil] at here
    rw [walk.eq_def, walk.eq_def fs]
    simp only [here, there, onward]

theorem read_congr {p : Path} (same : ∀ q, q <+: p → fs'.find? q = fs.find? q) :
    fs'.read p = fs.read p := by
  have walked : fs'.walk [] p = fs.walk [] p := walk_congr same
  rw [read, read, get, get, walked]

/-- A walk goes on behind directories. -/
theorem walk_append {rest more : List String}
    (dirs : ∀ q, q <+: rest → fs.find? (done ++ q) = some .dir)
    (short : ∀ c ∈ rest, c.utf8ByteSize ≤ nameLimit) :
    fs.walk done (rest ++ more) = fs.walk (done ++ rest) more := by
  induction rest generalizing done with
  | nil => rw [List.nil_append, List.append_nil]
  | cons c rest ih =>
    obtain ⟨first, others⟩ := List.forall_mem_cons.mp short
    have here := dirs [] List.nil_prefix
    have there := dirs [c] (List.cons_prefix_cons.mpr ⟨rfl, List.nil_prefix⟩)
    have onward : fs.walk (done ++ [c]) (rest ++ more) = fs.walk (done ++ [c] ++ rest) more := by
      refine ih (fun q before => ?_) others
      have later := dirs (c :: q) (List.cons_prefix_cons.mpr ⟨rfl, before⟩)
      rwa [← List.append_cons]
    rw [List.append_nil] at here
    rw [List.append_cons done, ← onward, List.cons_append, walk.eq_def]
    simp only [here, if_neg (Nat.not_lt_of_le first)]
    split
    · next none => rw [there] at none; cases none
    · rfl

/-- A walk ends where a directory is missing, whatever follows. -/
theorem walk_unled {rest : List String}
    (passable : ∀ q, q <+: rest → fs.find? (done ++ q) = some .dir ∨ fs.find? (done ++ q) = none)
    (short : ∀ c ∈ rest, c.utf8ByteSize ≤ nameLimit) (missing : fs.find? (done ++ rest) = none) :
    fs.walk done (rest ++ [name]) = .error .notFound := by
  rcases walk_passable passable short with onward | ended
  · rw [onward, walk.eq_def]
    simp only [missing]
  · exact ended

/-- Nothing can be read in a directory that is missing. -/
theorem read_unled (passable : ∀ q, q <+: dir → fs.find? q = some .dir ∨ fs.find? q = none)
    (short : ∀ c ∈ dir, c.utf8ByteSize ≤ nameLimit) (missing : fs.find? dir = none) :
    fs.read (dir ++ [name]) = .error .notFound := by
  have walked : fs.walk [] (dir ++ [name]) = .error .notFound := walk_unled passable short missing
  rw [read, get, walked]

/-- A name that is too long is noticed in a directory that is there. -/
theorem walk_long (dirs : ∀ q, q <+: dir → fs.find? q = some .dir)
    (short : ∀ c ∈ dir, c.utf8ByteSize ≤ nameLimit) (long : nameLimit < name.utf8ByteSize) :
    fs.walk [] (dir ++ [name]) = .error .nameTooLong := by
  have onward : fs.walk [] (dir ++ [name]) = fs.walk dir [name] := walk_append dirs short
  rw [onward, walk.eq_def]
  simp only [dirs dir (List.prefix_refl _), if_pos long]

theorem read_long (dirs : ∀ q, q <+: dir → fs.find? q = some .dir)
    (short : ∀ c ∈ dir, c.utf8ByteSize ≤ nameLimit) (long : nameLimit < name.utf8ByteSize) :
    fs.read (dir ++ [name]) = .error .nameTooLong := by
  rw [read, get, walk_long dirs short long]

/-! ## Changes -/

/-- A text is written to a plain file, which may be new; a device swallows it. -/
theorem write_cases (written : fs.write (dir ++ [name]) text = .ok fs') :
    fs.LeadsTo dir name ∧ (fs' = fs.put (dir ++ [name]) (.file text) ∨
      fs' = fs ∧ ∃ number mode uid gid,
        fs.find? (dir ++ [name]) = some (.block number mode uid gid)) := by
  unfold write at written
  split at written
  · cases written
  · cases written
  · next number mode uid gid walked =>
    cases written
    obtain ⟨leads, found⟩ := walk_file_iff.mp walked
    exact ⟨leads, Or.inr ⟨rfl, number, mode, uid, gid, found.symm⟩⟩
  · next walked =>
    cases written
    exact ⟨(walk_file_iff.mp walked).1, Or.inl rfl⟩

/-- No text is written over a directory. -/
theorem not_dir_of_write (written : fs.write (dir ++ [name]) text = .ok fs') :
    fs.find? (dir ++ [name]) ≠ some .dir := by
  unfold write at written
  split at written
  · cases written
  · cases written
  · next walked =>
    rw [← (walk_file_iff.mp walked).2]
    nofun
  · next node other _ walked =>
    rw [← (walk_file_iff.mp walked).2]
    rintro rfl
    exact other rfl

/-- No file takes the place of a directory. -/
theorem not_dir_of_rename {source : Path} (renamed : fs.rename source (dir ++ [name]) = .ok fs') :
    fs.find? (dir ++ [name]) ≠ some .dir := by
  unfold rename at renamed
  split at renamed
  · cases renamed
  · split at renamed
    · cases renamed
    · cases renamed
    · next node other walked =>
      rw [← (walk_file_iff.mp walked).2]
      rintro rfl
      exact other rfl

/-- A file is moved with its node, to where a path leads as well. -/
theorem rename_cases {dir' : Path} {name' : String}
    (renamed : fs.rename (dir ++ [name]) (dir' ++ [name']) = .ok fs') :
    fs.LeadsTo dir' name' ∧ ∃ node, fs.find? (dir ++ [name]) = some node ∧
      fs' = (fs.remove (dir ++ [name])).put (dir' ++ [name']) node := by
  unfold rename at renamed
  split at renamed
  · cases renamed
  · next node got =>
    split at renamed
    · cases renamed
    · cases renamed
    · next walked =>
      cases renamed
      exact ⟨(walk_file_iff.mp walked).1, node, (get_eq_ok_iff.mp got).2, rfl⟩

/-- One directory on the way is there or is made, and then those behind it. -/
theorem makeDirsFrom_cons {c : String} {rest : List String}
    (made : fs.makeDirsFrom done (c :: rest) = .ok fs') :
    fs.LeadsTo done c ∧ ∃ next : FileSystem, next.makeDirsFrom (done ++ [c]) rest = .ok fs' ∧
      (next = fs ∧ fs.find? (done ++ [c]) = some .dir ∨
        next = fs.put (done ++ [c]) .dir ∧ fs.find? (done ++ [c]) = none) := by
  unfold makeDirsFrom at made
  dsimp only at made
  split at made
  · cases made
  · next walked =>
    obtain ⟨leads, missing⟩ := walk_file_iff.mp walked
    exact ⟨leads, _, made, Or.inr ⟨rfl, missing.symm⟩⟩
  · next walked =>
    obtain ⟨leads, there⟩ := walk_file_iff.mp walked
    exact ⟨leads, _, made, Or.inl ⟨rfl, there.symm⟩⟩
  · cases made

/-- Directories that are missing are made, and nothing else changes. -/
theorem makeDirs_cases (made : fs.makeDirs dir = .ok fs') (q : Path) :
    fs'.find? q = fs.find? q ∨ q <+: dir ∧ fs.find? q = none ∧ fs'.find? q = some .dir := by
  have from_ (rest : List String) : ∀ (done : Path) (fs : FileSystem),
      fs.makeDirsFrom done rest = .ok fs' →
        fs'.find? q = fs.find? q ∨
          q <+: done ++ rest ∧ fs.find? q = none ∧ fs'.find? q = some .dir := by
    induction rest with
    | nil =>
      intro done fs made
      cases made
      exact Or.inl rfl
    | cons c rest ih =>
      intro done fs made
      rw [List.append_cons]
      obtain ⟨-, next, onward, ⟨rfl, -⟩ | ⟨rfl, missing⟩⟩ := makeDirsFrom_cons made
      · exact ih _ _ onward
      have put := find?_put fs (done ++ [c]) q .dir (List.append_ne_nil_of_right_ne_nil _ nofun)
      rcases ih _ _ onward with same | ⟨before, none, dir⟩
      · rw [put] at same
        split at same
        · next own =>
          subst own
          exact Or.inr ⟨List.prefix_append .., missing, same⟩
        · exact Or.inl same
      · rw [put] at none
        split at none
        · cases none
        · exact Or.inr ⟨before, none, dir⟩
  exact from_ dir [] fs made

/-- A directory that was made is there, and so are all that lead to it. -/
theorem dirs_of_makeDirs (made : fs.makeDirs dir = .ok fs') :
    (∀ q, q <+: dir → fs'.find? q = some .dir) ∧ ∀ c ∈ dir, c.utf8ByteSize ≤ nameLimit := by
  have from_ (rest : List String) : ∀ (done : Path) (fs : FileSystem),
      (∀ q, q <+: done → fs.find? q = some .dir) → (∀ c ∈ done, c.utf8ByteSize ≤ nameLimit) →
      fs.makeDirsFrom done rest = .ok fs' →
        (∀ q, q <+: done ++ rest → fs'.find? q = some .dir) ∧
          ∀ c ∈ done ++ rest, c.utf8ByteSize ≤ nameLimit := by
    induction rest with
    | nil =>
      intro done fs dirs short made
      cases made
      rw [List.append_nil]
      exact ⟨dirs, short⟩
    | cons c rest ih =>
      intro done fs dirs _ made
      rw [List.append_cons]
      obtain ⟨leads, next, onward, ⟨rfl, there⟩ | ⟨rfl, -⟩⟩ := makeDirsFrom_cons made
      · refine ih _ _ (fun q before => ?_) leads.short onward
        rcases List.prefix_concat_iff.mp before with rfl | before
        · exact there
        · exact dirs q before
      · refine ih _ _ (fun q before => ?_) leads.short onward
        rw [find?_put fs (done ++ [c]) q .dir (List.append_ne_nil_of_right_ne_nil _ nofun)]
        split
        · rfl
        · next other => exact dirs q ((List.prefix_concat_iff.mp before).resolve_left other)
  refine from_ dir [] fs (fun q before => ?_) (List.forall_mem_nil _) made
  rw [List.prefix_nil.mp before]
  rfl

/-! ## File systems without gaps -/

/-- Only directories lead to what is there. -/
def Rooted (fs : FileSystem) : Prop :=
  ∀ p c node, fs.find? (p ++ [c]) = some node → fs.find? p = some .dir

theorem Rooted.empty (mayMakeNodes : Bool) : Rooted ⟨[], mayMakeNodes⟩ := by
  intro p c node found
  rw [find?, if_neg (List.append_ne_nil_of_right_ne_nil _ (List.cons_ne_nil _ _))] at found
  cases found

theorem Rooted.dirs (rooted : fs.Rooted) {q : Path} (before : q <+: dir)
    (here : fs.find? dir = some .dir) : fs.find? q = some .dir := by
  obtain ⟨rest, rfl⟩ := before
  induction rest generalizing q with
  | nil => rwa [List.append_nil] at here
  | cons c rest ih =>
    have next : fs.find? (q ++ [c]) = some .dir := ih (List.append_cons q c rest ▸ here)
    exact rooted q c .dir next

/-- A node is put into a directory, in place of no directory. -/
theorem Rooted.put (rooted : fs.Rooted) (here : fs.find? dir = some .dir)
    (leaf : fs.find? (dir ++ [name]) ≠ some .dir) (node : Node) :
    (fs.put (dir ++ [name]) node).Rooted := by
  have below : dir ++ [name] ≠ [] := List.append_ne_nil_of_right_ne_nil _ nofun
  intro p c other found
  rw [find?_put _ _ _ _ below] at found
  have above : fs.find? p = some .dir := by
    split at found
    · next same => rwa [(List.append_inj' same rfl).1]
    · exact rooted p c other found
  rw [find?_put _ _ _ _ below, if_neg, above]
  rintro rfl
  exact leaf above

theorem Rooted.remove (rooted : fs.Rooted) (leaf : fs.find? (dir ++ [name]) ≠ some .dir) :
    (fs.remove (dir ++ [name])).Rooted := by
  have below : dir ++ [name] ≠ [] := List.append_ne_nil_of_right_ne_nil _ nofun
  intro p c other found
  rw [find?_remove _ _ _ below] at found
  split at found
  · cases found
  have above := rooted p c other found
  rw [find?_remove _ _ _ below, if_neg, above]
  rintro rfl
  exact leaf above

theorem Rooted.write (rooted : fs.Rooted) (written : fs.write (dir ++ [name]) text = .ok fs') :
    fs'.Rooted := by
  obtain ⟨leads, rfl | ⟨rfl, -⟩⟩ := write_cases written
  · exact rooted.put (leads.dirs dir (List.prefix_refl _)) (not_dir_of_write written) _
  · exact rooted

/-- A file that is moved is no directory, so it leaves no gap. -/
theorem Rooted.rename {dir' : Path} {name' : String} (rooted : fs.Rooted)
    (file : fs.find? (dir ++ [name]) ≠ some .dir)
    (renamed : fs.rename (dir ++ [name]) (dir' ++ [name']) = .ok fs') : fs'.Rooted := by
  obtain ⟨leads, node, -, rfl⟩ := rename_cases renamed
  have below : dir ++ [name] ≠ [] := List.append_ne_nil_of_right_ne_nil _ nofun
  refine (rooted.remove file).put ?_ ?_ node
  · have here := leads.dirs dir' (List.prefix_refl _)
    rw [find?_remove _ _ _ below, if_neg, here]
    rintro rfl
    exact file here
  · rw [find?_remove _ _ _ below]
    split
    · nofun
    · exact not_dir_of_rename renamed

theorem Rooted.makeDirs (rooted : fs.Rooted) (made : fs.makeDirs dir = .ok fs') : fs'.Rooted := by
  have from_ (rest : List String) : ∀ (done : Path) (fs : FileSystem), fs.Rooted →
      fs.makeDirsFrom done rest = .ok fs' → fs'.Rooted := by
    induction rest with
    | nil =>
      intro done fs rooted made
      cases made
      exact rooted
    | cons c rest ih =>
      intro done fs rooted made
      obtain ⟨leads, next, onward, ⟨rfl, -⟩ | ⟨rfl, missing⟩⟩ := makeDirsFrom_cons made
      · exact ih _ _ rooted onward
      · have leaf : fs.find? (done ++ [c]) ≠ some .dir := by
          rw [missing]
          nofun
        exact ih _ _ (rooted.put (leads.dirs done (List.prefix_refl _)) leaf _) onward
  exact from_ dir [] fs rooted made

/-- Where a directory was made, a reader finds what it found before. Only a name that is too long is
noticed later if the directory was missing. -/
theorem read_makeDirs (rooted : fs.Rooted) (made : fs.makeDirs dir = .ok fs') :
    fs'.read (dir ++ [name]) = fs.read (dir ++ [name]) ∨
      nameLimit < name.utf8ByteSize ∧ fs.find? dir = none ∧
        fs.read (dir ++ [name]) = .error .notFound ∧
          fs'.read (dir ++ [name]) = .error .nameTooLong := by
  obtain ⟨dirs, short⟩ := dirs_of_makeDirs made
  -- either nothing on the way has changed, or nothing could be read there before
  rcases makeDirs_cases made dir with same | ⟨-, missing, -⟩
  · have here : fs.find? dir = some .dir := same.symm.trans (dirs dir (List.prefix_refl _))
    refine Or.inl (read_congr fun q _ => ?_)
    rcases makeDirs_cases made q with same | ⟨before, none, -⟩
    · exact same
    · rw [rooted.dirs before here] at none
      cases none
  · have passable : ∀ q, q <+: dir → fs.find? q = some .dir ∨ fs.find? q = none := by
      intro q before
      rcases makeDirs_cases made q with same | ⟨-, none, -⟩
      · exact Or.inl (same.symm.trans (dirs q before))
      · exact Or.inr none
    have unled : fs.read (dir ++ [name]) = .error .notFound := read_unled passable short missing
    by_cases long : nameLimit < name.utf8ByteSize
    · exact Or.inr ⟨long, missing, unled, read_long dirs short long⟩
    · have absent : fs'.find? (dir ++ [name]) = none := by
        rcases makeDirs_cases made (dir ++ [name]) with same | ⟨before, -⟩
        · rw [same, Option.eq_none_iff_forall_ne_some]
          intro node there
          rw [rooted dir name node there] at missing
          cases missing
        · have length := before.length_le
          rw [List.length_append, List.length_singleton] at length
          omega
      have names : ∀ c ∈ dir ++ [name], c.utf8ByteSize ≤ nameLimit :=
        List.forall_mem_append.mpr ⟨short, List.forall_mem_singleton.mpr (Nat.le_of_not_lt long)⟩
      exact Or.inl
        ((read_missing (fun q before => Or.inl (dirs q before)) names absent).trans unled.symm)

end FileSystem

end VmControl
