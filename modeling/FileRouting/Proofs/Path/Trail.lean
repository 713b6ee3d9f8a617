import FileRouting.Path.Canonical
import FileRouting.Proofs.Path.Text

/-!
# Trails and their locations

Every trail has a location. Going on by a name goes on in the location, `location_push`, and going
up goes up in it, `location_up`, so that trails of one location cannot be told apart by what is
found on them.
-/

namespace FileRouting

open FileRouting.Text

/-! ## Names -/

/-- What can stand between two slashes when a path is resolved. -/
def IsPlainName (name : String) : Prop :=
  '/' ∉ name.toList ∧ '\x00' ∉ name.toList

/-- A name of a location. -/
structure IsSegment (name : String) : Prop where
  isName : Path.IsName name
  down : name ≠ ".."
  plain : '\x00' ∉ name.toList

theorem isPlainName_of_mem_namesOf {name text : String} (valid : '\x00' ∉ text.toList)
    (member : name ∈ Path.namesOf text) : IsPlainName name := by
  obtain ⟨part, among, rfl⟩ := List.mem_map.1 member
  rw [IsPlainName, String.toList_ofList]
  exact ⟨not_mem_of_mem_fields among, fun null => valid (subset_of_mem_fields among null)⟩

theorem isPlainName_of_mem_ofText {file name : String} (plain : '\x00' ∉ file.toList)
    (member : name ∈ (Path.ofText file).names) : IsPlainName name :=
  isPlainName_of_mem_namesOf plain (List.mem_of_mem_filter member)

theorem null_not_mem_text {path : Path} (plain : ∀ name ∈ path.names, '\x00' ∉ name.toList) :
    '\x00' ∉ path.text.toList := by
  intro member
  rcases Path.mem_toList_text member with dot | slash | ⟨name, among, null⟩
  · exact absurd dot (by decide)
  · exact absurd slash (by decide)
  · exact plain name among null

namespace Trail

variable {trail : Trail} {workingDirectory : Path} {name : String}

/-! ## Going on and going up -/

/-- A trail as resolving keeps it. -/
structure IsClean (trail : Trail) : Prop where
  anchor : trail.anchor ≠ .doubleRoot
  names : ∀ name ∈ trail.names, Path.IsName name ∧ '\x00' ∉ name.toList

theorem IsClean.push (clean : trail.IsClean) (isName : Path.IsName name)
    (plain : '\x00' ∉ name.toList) : (trail.push name).IsClean where
  anchor := clean.anchor
  names := by
    intro name' member
    rcases List.mem_append.1 member with member | member
    · exact clean.names name' member
    · rw [List.mem_singleton.1 member]
      exact ⟨isName, plain⟩

theorem isClean_root : Trail.root.IsClean := ⟨by decide, by simp [root]⟩

theorem fold_append (start : Location) (names more : List String) :
    fold start (names ++ more) = fold (fold start names) more :=
  List.foldl_append

theorem location_append (names : List String) :
    Trail.location ⟨trail.anchor, trail.names ++ names⟩ workingDirectory =
      fold (trail.location workingDirectory) names :=
  fold_append _ _ _

theorem location_push (nonempty : name ≠ "") (noDot : name ≠ ".") (down : name ≠ "..") :
    (trail.push name).location workingDirectory = trail.location workingDirectory ++ [name] := by
  rw [push, location_append]
  simp [fold, nonempty, noDot, down]

theorem location_push_up :
    (trail.push "..").location workingDirectory = (trail.location workingDirectory).dropLast := by
  rw [push, location_append]
  simp [fold]

/-- The shapes of a trail that is one directory up. -/
theorem up_cases (trail : Trail) :
    (trail.up = trail ∧ trail.isAbsolute ∧ trail.names = []) ∨ trail.up = trail.push ".." ∨
      ∃ names last, trail.names = names ++ [last] ∧ last ≠ ".." ∧
        trail.up = { trail with names } := by
  rcases List.eq_nil_or_concat' trail.names with none | ⟨names, last, shape⟩
  · by_cases absolute : trail.isAbsolute
    · exact .inl ⟨by simp [up, none, absolute], absolute, none⟩
    · exact .inr (.inl (by simp [up, none, absolute]))
  · by_cases up' : last = ".."
    · exact .inr (.inl (by simp [up, shape, up']))
    · exact .inr (.inr ⟨names, last, shape, up', by simp [up, shape, up']⟩)

theorem location_up (clean : trail.IsClean) :
    trail.up.location workingDirectory = (trail.location workingDirectory).dropLast := by
  rcases trail.up_cases with ⟨here, absolute, none⟩ | behind | ⟨names, last, shape, down, above⟩
  · rw [here, location, if_pos absolute, none]
    rfl
  · rw [behind, location_push_up]
  · obtain ⟨isName, -⟩ := clean.names last (by simp [shape])
    have whole : trail = ({ trail with names } : Trail).push last := by
      rw [push, ← shape]
    rw [whole, location_push isName.1 isName.2.1 down, ← whole, List.dropLast_concat, above]

theorem IsClean.up (clean : trail.IsClean) : trail.up.IsClean := by
  rcases trail.up_cases with ⟨here, -⟩ | behind | ⟨names, last, shape, -, above⟩
  · rwa [here]
  · rw [behind]
    exact clean.push (by decide) (by decide)
  · rw [above]
    exact ⟨clean.anchor, fun name member => clean.names name (by simp [shape, member])⟩

/-! ## Locations -/

theorem fold_of_segments {start names : List String} (valid : ∀ name ∈ names, IsSegment name) :
    fold start names = start ++ names := by
  induction names generalizing start with
  | nil => simp [fold]
  | cons name names ih =>
    obtain ⟨first, others⟩ := List.forall_mem_cons.1 valid
    have step : fold (start ++ [name]) names = start ++ [name] ++ names := ih others
    simpa [fold, first.isName.1, first.isName.2.1, first.down] using step

theorem isSegment_of_mem_fold {start names : List String}
    (start' : ∀ name ∈ start, IsSegment name)
    (names' : ∀ name ∈ names, Path.IsName name ∧ '\x00' ∉ name.toList) :
    ∀ name ∈ fold start names, IsSegment name := by
  induction names generalizing start with
  | nil => exact start'
  | cons name names ih =>
    obtain ⟨⟨isName, plain⟩, others⟩ := List.forall_mem_cons.1 names'
    refine ih ?_ others
    by_cases up : name = ".."
    · intro name' member
      simp only [up, String.reduceEq, or_self, if_false, if_true] at member
      exact start' name' ((List.dropLast_sublist start).subset member)
    · simpa [isName.1, isName.2.1, up, or_imp, forall_and] using ⟨start', isName, up, plain⟩

theorem isSegment_of_mem_location (clean : trail.IsClean)
    (working : ∀ name ∈ workingDirectory.names, IsSegment name) :
    ∀ name ∈ trail.location workingDirectory, IsSegment name := by
  refine isSegment_of_mem_fold ?_ clean.names
  split
  · simp
  · exact working

/-- The path of a trail has its location as its names. -/
theorem path_eq (clean : trail.IsClean) (rooted : workingDirectory.anchor = .root)
    (working : ∀ name ∈ workingDirectory.names, IsSegment name) :
    (trail.path workingDirectory).anchor = .root ∧
      (trail.path workingDirectory).names = trail.location workingDirectory := by
  constructor
  · simp only [path, Path.ofNames]
    split
    · next absolute =>
      have relative : trail.anchor ≠ .relative := by simpa [isAbsolute] using absolute
      have doubled := clean.anchor
      revert relative doubled
      cases trail.anchor <;> simp
    · exact rooted
  · simp only [path, Path.ofNames]
    rw [List.filter_eq_self]
    intro name member
    exact decide_eq_true (isSegment_of_mem_location clean working name member).isName

end Trail

end FileRouting
