import FileRouting.Proofs.Path.Resolution
import Mathlib.Data.List.Infix

/-!
# Canonical paths

Resolving keeps to locations of which no leading part is a link, and such a location resolves to
itself, `canonical_of_isCanonical`. What names resolve to depends on the location of a trail alone,
and so the canonical form of a path is that of its absolute form, too, `canonical_join`.
-/

namespace FileRouting

open FileRouting.Text

namespace FileSystem

/-- No leading part of a location is a link. -/
def LinkFree (fs : FileSystem) (location : Location) : Prop :=
  ∀ part, part <+: location → ∀ target, fs.entry? part ≠ some (.link target)

/-- What a running system keeps to: targets of links do not hold U+0000, and the working directory
is written from the root and names itself without dots and links. -/
structure IsProper (fs : FileSystem) : Prop where
  targets : fs.HasPlainTargets
  rooted : fs.workingDirectory.anchor = .root
  segments : ∀ name ∈ fs.workingDirectory.names, IsSegment name
  linkFree : fs.LinkFree fs.workingDirectory.names

section

variable {fs : FileSystem} {trail trail' next found : Trail} {name target : String}
  {names : List String} {pending pending' : List Location} {location : Location}

/-! ## Leading parts -/

theorem linkFree_nil : fs.LinkFree [] := by
  intro part leads target
  rw [List.prefix_nil.1 leads, entry?, if_pos rfl]
  simp

theorem LinkFree.concat (linkFree : fs.LinkFree location)
    (unlinked : ∀ target, fs.entry? (location ++ [name]) ≠ some (.link target)) :
    fs.LinkFree (location ++ [name]) := by
  intro part leads
  rcases List.prefix_concat_iff.1 leads with rfl | leads
  · exact unlinked
  · exact linkFree part leads

theorem LinkFree.of_prefix {location' : Location} (linkFree : fs.LinkFree location')
    (leads : location <+: location') : fs.LinkFree location :=
  fun part leads' => linkFree part (leads'.trans leads)

/-! ## Settled trails -/

/-- A trail as resolving leaves it behind. -/
structure Settled (fs : FileSystem) (trail : Trail) : Prop where
  clean : trail.IsClean
  linkFree : fs.LinkFree (trail.location fs.workingDirectory)

theorem settled_root : fs.Settled .root := ⟨Trail.isClean_root, linkFree_nil⟩

theorem isClean_of_turn (clean : trail.IsClean) (plain : IsPlainName name)
    (turn : fs.turn trail name = .on next) : next.IsClean := by
  rcases turn_eq_on_iff.1 turn with ⟨-, rfl⟩ | ⟨-, rfl⟩ | ⟨down, rfl, -⟩
  · exact clean
  · exact clean.up
  · exact clean.push ⟨down.1, down.2.1, plain.1⟩ plain.2

theorem Settled.on (settled : fs.Settled trail) (plain : IsPlainName name)
    (turn : fs.turn trail name = .on next) : fs.Settled next := by
  refine ⟨isClean_of_turn settled.clean plain turn, ?_⟩
  rcases turn_eq_on_iff.1 turn with ⟨-, rfl⟩ | ⟨-, rfl⟩ | ⟨down, rfl, unlinked⟩
  · exact settled.linkFree
  · rw [Trail.location_up settled.clean]
    exact settled.linkFree.of_prefix (List.dropLast_prefix _)
  · rw [Trail.location_push down.1 down.2.1 down.2.2] at unlinked ⊢
    exact settled.linkFree.concat unlinked

theorem Settled.startOf (settled : fs.Settled trail) (target : String) :
    fs.Settled (startOf trail target) := by
  unfold FileSystem.startOf
  split
  · exact settled
  · exact settled_root

theorem isPlainName_of_turn (targets : fs.HasPlainTargets)
    (turn : fs.turn trail name = .link target) :
    ∀ name ∈ Path.namesOf target, IsPlainName name := fun _ member =>
  isPlainName_of_mem_namesOf (targets _ _ (turn_eq_link_iff.1 turn).2) member

theorem Resolves.settled (h : fs.Resolves trail names found) (targets : fs.HasPlainTargets)
    (plain : ∀ name ∈ names, IsPlainName name) (settled : fs.Settled trail) :
    fs.Settled found := by
  induction h with
  | done => exact settled
  | on turn _ ih =>
    obtain ⟨first, others⟩ := List.forall_mem_cons.1 plain
    exact ih others (settled.on first turn)
  | link turn _ _ ihInside ihRest =>
    have inside := ihInside (isPlainName_of_turn targets turn) (settled.startOf _)
    exact ihRest (List.forall_mem_cons.1 plain).2 inside

/-! ## Trails of one location -/

/-- Two trails that lead to one location. -/
structure SamePlace (fs : FileSystem) (trail trail' : Trail) : Prop where
  clean : trail.IsClean
  clean' : trail'.IsClean
  location : trail.location fs.workingDirectory = trail'.location fs.workingDirectory

theorem SamePlace.symm (same : fs.SamePlace trail trail') : fs.SamePlace trail' trail :=
  ⟨same.clean', same.clean, same.location.symm⟩

theorem SamePlace.push (same : fs.SamePlace trail trail') (down : GoesDown name) :
    (trail.push name).location fs.workingDirectory =
      (trail'.push name).location fs.workingDirectory := by
  rw [Trail.location_push down.1 down.2.1 down.2.2, Trail.location_push down.1 down.2.1 down.2.2,
    same.location]

theorem SamePlace.link (same : fs.SamePlace trail trail')
    (turn : fs.turn trail name = .link target) :
    fs.turn trail' name = .link target := by
  obtain ⟨down, entry⟩ := turn_eq_link_iff.1 turn
  exact turn_eq_link_iff.2 ⟨down, same.push down ▸ entry⟩

theorem SamePlace.on (same : fs.SamePlace trail trail') (plain : IsPlainName name)
    (turn : fs.turn trail name = .on next) :
    ∃ next', fs.turn trail' name = .on next' ∧ fs.SamePlace next next' := by
  have clean := isClean_of_turn same.clean plain turn
  obtain ⟨next', turn', location⟩ : ∃ next', fs.turn trail' name = .on next' ∧
      next.location fs.workingDirectory = next'.location fs.workingDirectory := by
    rcases turn_eq_on_iff.1 turn with ⟨skip, rfl⟩ | ⟨up, rfl⟩ | ⟨down, rfl, unlinked⟩
    · exact ⟨trail', turn_eq_on_iff.2 (.inl ⟨skip, rfl⟩), same.location⟩
    · refine ⟨trail'.up, turn_eq_on_iff.2 (.inr (.inl ⟨up, rfl⟩)), ?_⟩
      rw [Trail.location_up same.clean, Trail.location_up same.clean', same.location]
    · have location := same.push down
      exact ⟨_, turn_eq_on_iff.2 (.inr (.inr ⟨down, rfl, location ▸ unlinked⟩)), location⟩
  exact ⟨next', turn', clean, isClean_of_turn same.clean' plain turn', location⟩

theorem SamePlace.startOf (same : fs.SamePlace trail trail') (target : String) :
    fs.SamePlace (startOf trail target) (startOf trail' target) := by
  unfold FileSystem.startOf
  split
  · exact same
  · exact ⟨Trail.isClean_root, Trail.isClean_root, rfl⟩

/-- Trails of one location have one path. -/
theorem SamePlace.path (same : fs.SamePlace trail trail') (proper : fs.IsProper) :
    trail.path fs.workingDirectory = trail'.path fs.workingDirectory := by
  obtain ⟨anchor, names⟩ := Trail.path_eq same.clean proper.rooted proper.segments
  obtain ⟨anchor', names'⟩ := Trail.path_eq same.clean' proper.rooted proper.segments
  ext1
  · rw [anchor, anchor']
  · rw [names, names', same.location]

theorem Resolves.of_samePlace (h : fs.Resolves trail names found) (targets : fs.HasPlainTargets)
    (plain : ∀ name ∈ names, IsPlainName name) (same : fs.SamePlace trail trail') :
    ∃ found', fs.Resolves trail' names found' ∧ fs.SamePlace found found' := by
  induction h generalizing trail' with
  | done => exact ⟨trail', .done, same⟩
  | on turn _ ih =>
    obtain ⟨first, others⟩ := List.forall_mem_cons.1 plain
    obtain ⟨next', turn', same'⟩ := same.on first turn
    obtain ⟨found', resolves, same''⟩ := ih others same'
    exact ⟨found', .on turn' resolves, same''⟩
  | link turn _ _ ihInside ihRest =>
    obtain ⟨behind', inside, same'⟩ := ihInside (isPlainName_of_turn targets turn) (same.startOf _)
    obtain ⟨found', resolves, same''⟩ := ihRest (List.forall_mem_cons.1 plain).2 same'
    exact ⟨found', .link (same.link turn) inside resolves, same''⟩

theorem Meets.of_samePlace {link : Trail} (h : fs.Meets pending trail names pending' link)
    (targets : fs.HasPlainTargets) (plain : ∀ name ∈ names, IsPlainName name)
    (same : fs.SamePlace trail trail') :
    ∃ link', fs.Meets pending trail' names pending' link' ∧
      link.location fs.workingDirectory = link'.location fs.workingDirectory := by
  induction h generalizing trail' with
  | on turn _ ih =>
    obtain ⟨first, others⟩ := List.forall_mem_cons.1 plain
    obtain ⟨next', turn', same'⟩ := same.on first turn
    obtain ⟨link', meets, location⟩ := ih others same'
    exact ⟨link', .on turn' meets, location⟩
  | here turn => exact ⟨_, .here (same.link turn), same.push (turn_eq_link_iff.1 turn).1⟩
  | inside turn _ ih =>
    obtain ⟨link', meets, location⟩ := ih (isPlainName_of_turn targets turn) (same.startOf _)
    rw [same.push (turn_eq_link_iff.1 turn).1] at meets
    exact ⟨link', .inside (same.link turn) meets, location⟩
  | behind turn inside _ ih =>
    obtain ⟨behind', inside', same'⟩ :=
      inside.of_samePlace targets (isPlainName_of_turn targets turn) (same.startOf _)
    obtain ⟨link', meets, location⟩ := ih (List.forall_mem_cons.1 plain).2 same'
    exact ⟨link', .behind (same.link turn) inside' meets, location⟩

/-! ## Names without links -/

theorem turn_of_linkFree (segment : IsSegment name)
    (linkFree : fs.LinkFree (trail.location fs.workingDirectory ++ name :: names)) :
    fs.turn trail name = .on (trail.push name) := by
  have down : GoesDown name := ⟨segment.isName.1, segment.isName.2.1, segment.down⟩
  refine turn_eq_on_iff.2 (.inr (.inr ⟨down, rfl, ?_⟩))
  rw [Trail.location_push down.1 down.2.1 down.2.2]
  exact linkFree _ ⟨names, by simp⟩

theorem linkFree_push (segment : IsSegment name)
    (linkFree : fs.LinkFree (trail.location fs.workingDirectory ++ name :: names)) :
    fs.LinkFree ((trail.push name).location fs.workingDirectory ++ names) := by
  rw [Trail.location_push segment.isName.1 segment.isName.2.1 segment.down]
  simpa using linkFree

theorem resolves_of_linkFree (segments : ∀ name ∈ names, IsSegment name)
    (linkFree : fs.LinkFree (trail.location fs.workingDirectory ++ names)) :
    fs.Resolves trail names ⟨trail.anchor, trail.names ++ names⟩ := by
  induction names generalizing trail with
  | nil => simpa using Resolves.done
  | cons name names ih =>
    obtain ⟨first, others⟩ := List.forall_mem_cons.1 segments
    have rest := ih others (linkFree_push first linkFree)
    refine .on (turn_of_linkFree first linkFree) ?_
    simpa [Trail.push] using rest

theorem everyLink_of_linkFree {holds : List Location → Trail → Prop}
    (segments : ∀ name ∈ names, IsSegment name)
    (linkFree : fs.LinkFree (trail.location fs.workingDirectory ++ names)) :
    fs.EveryLink holds pending trail names := by
  induction names generalizing trail with
  | nil => exact everyLink_nil
  | cons name names ih =>
    obtain ⟨first, others⟩ := List.forall_mem_cons.1 segments
    rw [everyLink_on (turn_of_linkFree first linkFree)]
    exact ih others (linkFree_push first linkFree)

theorem resolveWith_of_linkFree {met : Met} {more : List String}
    {follow : Met → Trail → List String → Except PathError (Met × Resolution)}
    (segments : ∀ name ∈ names, IsSegment name)
    (linkFree : fs.LinkFree (trail.location fs.workingDirectory ++ names)) :
    fs.resolveWith follow met trail (names ++ more) =
      fs.resolveWith follow met ⟨trail.anchor, trail.names ++ names⟩ more := by
  induction names generalizing trail with
  | nil => simp
  | cons name names ih =>
    obtain ⟨first, others⟩ := List.forall_mem_cons.1 segments
    rw [List.cons_append, resolveWith_on (turn_of_linkFree first linkFree) first.plain,
      ih others (linkFree_push first linkFree)]
    simp [Trail.push]

theorem walkWith_of_linkFree {follow : Location → List String → Except FileFault Location}
    {here : Location} (segments : ∀ name ∈ names, IsSegment name)
    (linkFree : fs.LinkFree (here ++ names)) :
    fs.walkWith follow here names ≠ .error .tooManyLinks := by
  induction names generalizing here with
  | nil => simp [walkWith]
  | cons name names ih =>
    obtain ⟨first, others⟩ := List.forall_mem_cons.1 segments
    have rest : fs.walkWith follow (here ++ [name]) names ≠ .error .tooManyLinks :=
      ih others (by simpa using linkFree)
    have unlinked := linkFree (here ++ [name]) ⟨names, by simp⟩
    rw [walkWith]
    cases fs.entry? here with
    | none => simp
    | some entry =>
      cases entry with
      | file | link => simp
      | directory =>
        simp only
        rw [if_neg (by simp [first.isName.1, first.isName.2.1]), if_neg first.down]
        split_ifs
        · simp
        · split
          · simp
          · next target entry => exact absurd entry (unlinked target)
          · exact rest

/-- No link is followed to where a path without links leads. -/
theorem locate_of_linkFree {path : Path} (rooted : path.anchor = .root)
    (segments : ∀ name ∈ path.names, IsSegment name) (linkFree : fs.LinkFree path.names) :
    fs.locate path ≠ .error .nullCharacter ∧
      ∀ text, fs.locate path ≠ .error (.refused .tooManyLinks text) := by
  have plain := null_not_mem_text fun name member => (segments name member).plain
  have walk : ∀ links, fs.walk links [] path.names ≠ .error .tooManyLinks := by
    rintro (_ | links) <;> exact walkWith_of_linkFree segments linkFree
  have start : fs.start path = [] := by simp [FileSystem.start, Path.isAbsolute, rooted]
  rw [locate, if_neg plain, start]
  split_ifs
  · simp
  · have notMany := walk maxLinks
    cases walked : fs.walk maxLinks [] path.names with
    | ok location => simp [Except.mapError]
    | error fault => simp_all [Except.mapError]

end

end FileSystem

/-! ## The canonical form -/

/-- Where resolving a path starts. -/
def Path.trail (path : Path) : Trail :=
  if path.isAbsolute then .root else ⟨.relative, []⟩

namespace FileSystem

variable {fs : FileSystem} {path : Path} {found : Trail}

theorem settled_trail (proper : fs.IsProper) (path : Path) : fs.Settled path.trail := by
  unfold Path.trail
  split
  · exact settled_root
  · exact ⟨⟨by simp, by simp⟩, proper.linkFree⟩

/-- A path as resolving gives it. -/
structure IsCanonical (fs : FileSystem) (path : Path) : Prop where
  rooted : path.anchor = .root
  segments : ∀ name ∈ path.names, IsSegment name
  linkFree : fs.LinkFree path.names

theorem IsCanonical.head?_text (canonical : fs.IsCanonical path) :
    path.text.toList.head? = some '/' := by
  rw [Path.head?_text]
  simp [Path.isAbsolute, canonical.rooted]

theorem IsCanonical.noDots (canonical : fs.IsCanonical path) :
    ∀ name ∈ Path.namesOf path.text, name ≠ "." ∧ name ≠ ".." := by
  intro name member
  rw [Path.namesOf_text (by simp [canonical.rooted])] at member
  have cases' : name = "" ∨ name ∈ path.names := by
    rcases List.mem_append.1 member with slash | member
    · exact .inl (List.eq_of_mem_replicate slash)
    · split at member
      · exact .inl (List.mem_singleton.1 member)
      · exact .inr member
  rcases cases' with rfl | among
  · decide
  · have segment := canonical.segments name among
    exact ⟨segment.isName.2.1, segment.down⟩

theorem Settled.isCanonical {trail : Trail} (settled : fs.Settled trail) (proper : fs.IsProper) :
    fs.IsCanonical (trail.path fs.workingDirectory) := by
  obtain ⟨rooted, names⟩ := Trail.path_eq settled.clean proper.rooted proper.segments
  refine ⟨rooted, ?_, names ▸ settled.linkFree⟩
  rw [names]
  exact Trail.isSegment_of_mem_location settled.clean proper.segments

theorem canonical_of_resolve {met : Met}
    (outcome : fs.resolve fs.linkDepth [] path.trail path.names = .ok (met, .resolved found))
    (notNull : fs.locate (found.path fs.workingDirectory) ≠ .error .nullCharacter)
    (notMany : ∀ text,
      fs.locate (found.path fs.workingDirectory) ≠ .error (.refused .tooManyLinks text)) :
    fs.canonical path = .ok (found.path fs.workingDirectory) := by
  rw [Path.trail] at outcome
  -- `notNull` and `notMany` leave only the last case of what the system answers.
  simp only [canonical, outcome, bind, Except.bind]

/-- A path resolves, and its canonical form is what it resolves to. -/
theorem exists_resolves (proper : fs.IsProper) (plain : ∀ name ∈ path.names, IsPlainName name)
    (loopFree : fs.LoopFree [] path.trail path.names)
    (within : fs.WithinLimits [] path.trail path.names) :
    ∃ found, fs.Resolves path.trail path.names found ∧
      fs.canonical path = .ok (found.path fs.workingDirectory) := by
  have enough : fs.countOutside [] ≤ fs.linkDepth := by
    have := fs.countOutside_le []
    rw [linkDepth]
    omega
  obtain ⟨met, found, outcome, resolves, -⟩ := resolve_solves proper.targets enough [] path.trail
    path.names knows_nil (fun name member => (plain name member).2) loopFree within
  have settled := resolves.settled proper.targets plain (settled_trail proper path)
  have canonical' := settled.isCanonical proper
  obtain ⟨notNull, notMany⟩ :=
    locate_of_linkFree canonical'.rooted canonical'.segments canonical'.linkFree
  exact ⟨found, resolves, canonical_of_resolve outcome notNull notMany⟩

theorem plain_of_isCanonical (canonical : fs.IsCanonical path) :
    ∀ name ∈ path.names, IsPlainName name := fun name member =>
  ⟨(path.isName name member).2.2, (canonical.segments name member).plain⟩

/-- A path as resolving gives it is its own canonical form. -/
theorem canonical_of_isCanonical (proper : fs.IsProper) (canonical : fs.IsCanonical path) :
    fs.canonical path = .ok path := by
  have start : path.trail = .root := by simp [Path.trail, Path.isAbsolute, canonical.rooted]
  have linkFree : fs.LinkFree (path.trail.location fs.workingDirectory ++ path.names) := by
    rw [start]
    exact canonical.linkFree
  have plain := plain_of_isCanonical canonical
  obtain ⟨found, resolves, outcome⟩ := exists_resolves proper plain
    (everyLink_of_linkFree canonical.segments linkFree)
    (everyLink_of_linkFree canonical.segments linkFree)
  have location : found.location fs.workingDirectory = path.names := by
    rw [resolves.unique (resolves_of_linkFree canonical.segments linkFree), Trail.location_append,
      Trail.fold_of_segments canonical.segments, start]
    rfl
  have settled := resolves.settled proper.targets plain (settled_trail proper path)
  obtain ⟨anchor, names⟩ := Trail.path_eq settled.clean proper.rooted proper.segments
  rw [outcome]
  congr 1
  ext1
  · rw [anchor, canonical.rooted]
  · rw [names, location]

/-- The absolute form of a path has the same canonical form. -/
theorem canonical_join (proper : fs.IsProper) (plain : ∀ name ∈ path.names, IsPlainName name)
    (loopFree : fs.LoopFree [] path.trail path.names)
    (within : fs.WithinLimits [] path.trail path.names)
    (within' : fs.WithinLimits [] (fs.workingDirectory.join path).trail
      (fs.workingDirectory.join path).names) :
    fs.canonical (fs.workingDirectory.join path) = fs.canonical path := by
  by_cases absolute : path.isAbsolute
  · rw [Path.join, if_pos absolute]
  have start : path.trail = ⟨.relative, []⟩ := if_neg absolute
  have start' : (fs.workingDirectory.join path).trail = .root :=
    if_pos (Path.isAbsolute_join (by simp [Path.isAbsolute, proper.rooted]) path)
  have names : (fs.workingDirectory.join path).names = fs.workingDirectory.names ++ path.names := by
    simp [Path.join, absolute]
  rw [start', names] at within'
  -- The names of the working directory lead from the root to where the path starts.
  let working : Trail := ⟨.root, fs.workingDirectory.names⟩
  have linkFree : fs.LinkFree
      (Trail.root.location fs.workingDirectory ++ fs.workingDirectory.names) := proper.linkFree
  have leads : fs.Resolves .root fs.workingDirectory.names working :=
    resolves_of_linkFree proper.segments linkFree
  have plain' : ∀ name ∈ fs.workingDirectory.names, IsPlainName name := fun name member =>
    ⟨(fs.workingDirectory.isName name member).2.2, (proper.segments name member).plain⟩
  have same : fs.SamePlace path.trail working := by
    have clean := (leads.settled proper.targets plain' settled_root).clean
    refine ⟨(settled_trail proper path).clean, clean, ?_⟩
    have location : Trail.fold [] fs.workingDirectory.names = fs.workingDirectory.names :=
      Trail.fold_of_segments proper.segments
    rw [start]
    exact location.symm
  have loopFree' : fs.LoopFree [] .root (fs.workingDirectory.names ++ path.names) := by
    refine (everyLink_append leads).2 ⟨everyLink_of_linkFree proper.segments linkFree, ?_⟩
    intro pending link meets
    obtain ⟨link', meets', location⟩ := meets.of_samePlace proper.targets plain same.symm
    rw [location]
    exact loopFree pending link' meets'
  obtain ⟨found, resolves, outcome⟩ := exists_resolves proper plain loopFree within
  obtain ⟨found', resolves', same'⟩ := resolves.of_samePlace proper.targets plain same
  obtain ⟨found'', resolves'', outcome'⟩ :=
    @exists_resolves fs (fs.workingDirectory.join path) proper
      (by rw [names]; exact List.forall_mem_append.2 ⟨plain', plain⟩)
      (by rwa [start', names]) (by rwa [start', names])
  rw [start', names] at resolves''
  obtain rfl := resolves''.unique (leads.append resolves')
  rw [outcome, outcome', same'.path proper]

end FileSystem

end FileRouting
