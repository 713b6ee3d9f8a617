import FileRouting.Proofs.Path.Trail

/-!
# Resolving names

What names resolve to is a relation that knows neither of links met before nor of a depth: a name
is taken for what it leads to, and a link for what its target resolves to. Where no link is met
inside its own target and every link is asked for by a short text, resolving gives what the
relation gives, `resolve_solves`. The induction is on the links that are not being resolved.
-/

namespace FileRouting

open FileRouting.Text

namespace FileSystem

/-! ## What names resolve to -/

/-- What a name behind a trail is: a way on, or a link with a target. -/
inductive Turn
  | on (trail : Trail)
  | link (target : String)
deriving DecidableEq

def turn (fs : FileSystem) (trail : Trail) (name : String) : Turn :=
  if name = "" ∨ name = "." then .on trail
  else if name = ".." then .on trail.up
  else
    match fs.entry? ((trail.push name).location fs.workingDirectory) with
    | some (.link target) => .link target
    | _ => .on (trail.push name)

/-- Where the target of a link behind a trail starts. -/
def startOf (trail : Trail) (target : String) : Trail :=
  if Path.Anchor.ofText target.toList = .relative then trail else .root

/-- Names behind a trail resolve to a trail. -/
inductive Resolves (fs : FileSystem) : Trail → List String → Trail → Prop
  | done {trail : Trail} : Resolves fs trail [] trail
  | on {trail next found : Trail} {name : String} {names : List String}
      (turn : fs.turn trail name = .on next) (rest : Resolves fs next names found) :
      Resolves fs trail (name :: names) found
  | link {trail behind found : Trail} {name target : String} {names : List String}
      (turn : fs.turn trail name = .link target)
      (inside : Resolves fs (startOf trail target) (Path.namesOf target) behind)
      (rest : Resolves fs behind names found) : Resolves fs trail (name :: names) found

/-- Resolving names comes to a link, while the links at some locations are still being resolved. -/
inductive Meets (fs : FileSystem) :
    List Location → Trail → List String → List Location → Trail → Prop
  | on {pending pending' : List Location} {trail next link : Trail} {name : String}
      {names : List String} (turn : fs.turn trail name = .on next)
      (later : Meets fs pending next names pending' link) :
      Meets fs pending trail (name :: names) pending' link
  | here {pending : List Location} {trail : Trail} {name target : String} {names : List String}
      (turn : fs.turn trail name = .link target) :
      Meets fs pending trail (name :: names) pending (trail.push name)
  | inside {pending pending' : List Location} {trail link : Trail} {name target : String}
      {names : List String} (turn : fs.turn trail name = .link target)
      (within : Meets fs ((trail.push name).location fs.workingDirectory :: pending)
        (startOf trail target) (Path.namesOf target) pending' link) :
      Meets fs pending trail (name :: names) pending' link
  | behind {pending pending' : List Location} {trail behind link : Trail} {name target : String}
      {names : List String} (turn : fs.turn trail name = .link target)
      (inside : Resolves fs (startOf trail target) (Path.namesOf target) behind)
      (later : Meets fs pending behind names pending' link) :
      Meets fs pending trail (name :: names) pending' link

/-- Every link that names come to has a property, which may be about the links that are being
resolved then. -/
def EveryLink (fs : FileSystem) (holds : List Location → Trail → Prop) (pending : List Location)
    (trail : Trail) (names : List String) : Prop :=
  ∀ pending' link, fs.Meets pending trail names pending' link → holds pending' link

/-- No link is met that is still being resolved. -/
def LoopFree (fs : FileSystem) : List Location → Trail → List String → Prop :=
  fs.EveryLink fun pending link => link.location fs.workingDirectory ∉ pending

/-- Every link is asked for by a text that the system takes. -/
def WithinLimits (fs : FileSystem) : List Location → Trail → List String → Prop :=
  fs.EveryLink fun _ link => link.size ≤ maxPathSize

section

variable {fs : FileSystem} {trail found found' next : Trail} {name target : String}
  {names : List String} {pending : List Location}

theorem Resolves.unique (h : fs.Resolves trail names found) (h' : fs.Resolves trail names found') :
    found = found' := by
  induction h generalizing found' with
  | done =>
    cases h'
    rfl
  | on turn _ ih =>
    cases h' with
    | on turn' rest' =>
      obtain rfl := Turn.on.inj (turn.symm.trans turn')
      exact ih rest'
    | link turn' => cases turn.symm.trans turn'
  | link turn _ _ ihInside ihRest =>
    cases h' with
    | on turn' => cases turn.symm.trans turn'
    | link turn' inside' rest' =>
      obtain rfl := Turn.link.inj (turn.symm.trans turn')
      obtain rfl := ihInside inside'
      exact ihRest rest'

theorem Resolves.append {more : List String} (h : fs.Resolves trail names next)
    (rest : fs.Resolves next more found) : fs.Resolves trail (names ++ more) found := by
  induction h with
  | done => exact rest
  | on turn _ ih => exact .on turn (ih rest)
  | link turn inside _ _ ih => exact .link turn inside (ih rest)

/-! ## The links on the way -/

section

variable {holds : List Location → Trail → Prop}

theorem everyLink_nil : fs.EveryLink holds pending trail [] := by
  rintro pending' link ⟨⟩

theorem everyLink_on (turn : fs.turn trail name = .on next) :
    fs.EveryLink holds pending trail (name :: names) ↔ fs.EveryLink holds pending next names := by
  constructor
  · exact fun every pending' link later => every pending' link (.on turn later)
  · intro every pending' link meets
    cases meets with
    | on turn' later =>
      obtain rfl := Turn.on.inj (turn.symm.trans turn')
      exact every pending' link later
    | here turn' | inside turn' | behind turn' => cases turn.symm.trans turn'

/-- The links on the way through a link are the link, those of its target and those behind it. -/
theorem everyLink_link {behind : Trail} (turn : fs.turn trail name = .link target)
    (inside : fs.Resolves (startOf trail target) (Path.namesOf target) behind) :
    fs.EveryLink holds pending trail (name :: names) ↔
      holds pending (trail.push name) ∧
        fs.EveryLink holds ((trail.push name).location fs.workingDirectory :: pending)
          (startOf trail target) (Path.namesOf target) ∧
        fs.EveryLink holds pending behind names := by
  constructor
  · intro every
    exact ⟨every _ _ (.here turn), fun _ _ within => every _ _ (.inside turn within),
      fun _ _ later => every _ _ (.behind turn inside later)⟩
  · rintro ⟨here, within, later⟩ pending' link meets
    cases meets with
    | on turn' => cases turn.symm.trans turn'
    | here => exact here
    | inside turn' meets =>
      obtain rfl := Turn.link.inj (turn.symm.trans turn')
      exact within pending' link meets
    | behind turn' inside' meets =>
      obtain rfl := Turn.link.inj (turn.symm.trans turn')
      obtain rfl := inside.unique inside'
      exact later pending' link meets

theorem everyLink_append {more : List String} (leads : fs.Resolves trail names next) :
    fs.EveryLink holds pending trail (names ++ more) ↔
      fs.EveryLink holds pending trail names ∧ fs.EveryLink holds pending next more := by
  induction leads with
  | done => simp [everyLink_nil]
  | on turn _ ih => rw [List.cons_append, everyLink_on turn, everyLink_on turn, ih]
  | link turn inside _ _ ih =>
    rw [List.cons_append, everyLink_link turn inside, everyLink_link turn inside, ih, and_assoc,
      and_assoc]

end

/-! ## One name -/

/-- A name that resolving looks up: it neither stays nor goes up. -/
def GoesDown (name : String) : Prop :=
  name ≠ "" ∧ name ≠ "." ∧ name ≠ ".."

theorem turn_eq_link_iff : fs.turn trail name = .link target ↔
    GoesDown name ∧
      fs.entry? ((trail.push name).location fs.workingDirectory) = some (.link target) := by
  unfold turn GoesDown
  split_ifs with skip up
  · simp only [false_iff]
    tauto
  · simp [up]
  · split <;> simp_all

theorem turn_eq_on_iff : fs.turn trail name = .on next ↔
    (name = "" ∨ name = ".") ∧ next = trail ∨ name = ".." ∧ next = trail.up ∨
      GoesDown name ∧ next = trail.push name ∧
        ∀ target, fs.entry? (next.location fs.workingDirectory) ≠ some (.link target) := by
  unfold turn GoesDown
  split_ifs with skip up
  · rcases skip with rfl | rfl <;> simp [eq_comm (a := next)]
  · simp [up, eq_comm (a := next)]
  · obtain ⟨nonempty, noDot⟩ := not_or.1 skip
    split
    · next target entry =>
      refine iff_of_false (by simp) ?_
      rintro (⟨skip', -⟩ | ⟨up', -⟩ | ⟨-, rfl, unlinked⟩)
      · exact skip skip'
      · exact up up'
      · exact unlinked target entry
    · next unlinked =>
      simp only [Turn.on.injEq, nonempty, noDot, up, or_self, false_and, false_or, ne_eq,
        not_false_eq_true, and_self, true_and]
      constructor
      · rintro rfl
        exact ⟨rfl, unlinked⟩
      · rintro ⟨rfl, -⟩
        rfl

theorem linkAt?_eq_none
    (h : ∀ target, fs.entry? (trail.location fs.workingDirectory) ≠ some (.link target)) :
    fs.linkAt? trail = none := by
  unfold linkAt?
  split_ifs
  · rfl
  · split
    · next target entry => exact absurd entry (h target)
    · rfl

theorem resolveWith_on {follow : Met → Trail → List String → Except PathError (Met × Resolution)}
    {met : Met} (turn : fs.turn trail name = .on next) (plain : '\x00' ∉ name.toList) :
    fs.resolveWith follow met trail (name :: names) = fs.resolveWith follow met next names := by
  rw [resolveWith]
  rcases turn_eq_on_iff.1 turn with ⟨skip, rfl⟩ | ⟨up, rfl⟩ | ⟨down, rfl, unlinked⟩
  · rw [if_pos skip]
  · rw [if_neg (by simp [up]), if_pos up]
  · obtain ⟨nonempty, noDot, down⟩ := down
    rw [if_neg (by simp [nonempty, noDot]), if_neg down, if_neg plain]
    simp only [linkAt?_eq_none unlinked]

theorem resolveWith_link {follow : Met → Trail → List String → Except PathError (Met × Resolution)}
    {met : Met} (turn : fs.turn trail name = .link target) (plain : '\x00' ∉ name.toList)
    (short : (trail.push name).size ≤ maxPathSize) :
    fs.resolveWith follow met trail (name :: names) =
      match met.lookup (trail.push name) with
      | some (some known) => fs.resolveWith follow met known names
      | some none => .ok (met, .looping ((trail.push name).join names))
      | none =>
        match follow ((trail.push name, none) :: met) (startOf trail target)
          (Path.namesOf target) with
        | .error e => .error e
        | .ok (met, .looping rest) => .ok (met, .looping (rest.join names))
        | .ok (met, .resolved known) =>
          fs.resolveWith follow ((trail.push name, some known) :: met) known names := by
  obtain ⟨⟨nonempty, noDot, down⟩, entry⟩ := turn_eq_link_iff.1 turn
  have linked : fs.linkAt? (trail.push name) = some target := by
    rw [linkAt?, if_neg (Nat.not_lt.2 short), entry]
  rw [resolveWith, if_neg (by simp [nonempty, noDot]), if_neg down, if_neg plain]
  simp only [linked]
  rfl

/-- A link that was not met before is replaced by what its target resolves to. -/
theorem resolveWith_follow
    {follow : Met → Trail → List String → Except PathError (Met × Resolution)} {met met' : Met}
    (turn : fs.turn trail name = .link target) (plain : '\x00' ∉ name.toList)
    (short : (trail.push name).size ≤ maxPathSize) (fresh : met.lookup (trail.push name) = none)
    (inside : follow ((trail.push name, none) :: met) (startOf trail target)
      (Path.namesOf target) = .ok (met', .resolved found)) :
    fs.resolveWith follow met trail (name :: names) =
      fs.resolveWith follow ((trail.push name, some found) :: met') found names := by
  rw [resolveWith_link turn plain short, fresh]
  simp only [inside]

theorem push_inj {trail' : Trail} {name' : String} (h : trail.push name = trail'.push name') :
    trail = trail' ∧ name = name' := by
  obtain ⟨anchor, names⟩ := trail
  obtain ⟨anchor', names'⟩ := trail'
  simp only [Trail.push, Trail.mk.injEq] at h
  obtain ⟨rfl, same⟩ := h
  obtain ⟨rfl, rfl⟩ := List.append_singleton_inj.1 same
  exact ⟨rfl, rfl⟩

/-! ## The links met so far -/

/-- What is known of a link is what its target resolves to, and a link of which nothing is known is
being resolved. -/
structure Knows (fs : FileSystem) (pending : List Location) (met : Met) : Prop where
  known : ∀ trail name target behind, fs.turn trail name = .link target →
    met.lookup (trail.push name) = some (some behind) →
    fs.Resolves (startOf trail target) (Path.namesOf target) behind
  unknown : ∀ link, met.lookup link = some none → link.location fs.workingDirectory ∈ pending

theorem knows_nil : fs.Knows [] [] where
  known := by simp
  unknown := by simp

theorem lookup_of_ne {met : Met} {link link' : Trail} {entry : Option Trail} (h : link ≠ link') :
    List.lookup link ((link', entry) :: met) = met.lookup link := by
  rw [List.lookup_cons, beq_false_of_ne h]

theorem Knows.cons_none {met : Met} (knows : fs.Knows pending met) (link : Trail) :
    fs.Knows (link.location fs.workingDirectory :: pending) ((link, none) :: met) where
  known trail name target behind turn found := by
    by_cases same : trail.push name = link
    · simp [same] at found
    · exact knows.known trail name target behind turn (lookup_of_ne same ▸ found)
  unknown link' found := by
    by_cases same : link' = link
    · simp [same]
    · exact List.mem_cons_of_mem _ (knows.unknown link' (lookup_of_ne same ▸ found))

/-- Once a link is resolved, no link is left open that was not open before it. -/
theorem lookup_of_open {met met' : Met} {link : Trail}
    (open' : ∀ link', met'.lookup link' = some none →
      List.lookup link' ((link, none) :: met) = some none) (link' : Trail)
    (h : List.lookup link' ((link, some found) :: met') = some none) :
    met.lookup link' = some none := by
  by_cases same : link' = link
  · simp [same] at h
  · rw [lookup_of_ne same] at h
    rw [← lookup_of_ne same]
    exact open' link' h

theorem Knows.cons_some {met met' : Met} (knows : fs.Knows pending met)
    (turn : fs.turn trail name = .link target)
    (resolves : fs.Resolves (startOf trail target) (Path.namesOf target) found)
    (knows' : fs.Knows ((trail.push name).location fs.workingDirectory :: pending) met')
    (open' : ∀ link, met'.lookup link = some none →
      List.lookup link ((trail.push name, none) :: met) = some none) :
    fs.Knows pending ((trail.push name, some found) :: met') where
  known trail' name' target' behind turn' found' := by
    by_cases same : trail'.push name' = trail.push name
    · obtain ⟨rfl, rfl⟩ := push_inj same
      obtain rfl := Turn.link.inj (turn.symm.trans turn')
      obtain rfl : found = behind := by simpa using found'
      exact resolves
    · exact knows'.known trail' name' target' behind turn' (lookup_of_ne same ▸ found')
  unknown link found' := knows.unknown link (lookup_of_open open' link found')

/-! ## Resolving -/

/-- Resolving ends with what the names resolve to, and no more links are left open than were
before. -/
def Solved (fs : FileSystem) (pending : List Location) (met : Met) (trail : Trail)
    (names : List String) (outcome : Except PathError (Met × Resolution)) : Prop :=
  ∃ met' found, outcome = .ok (met', .resolved found) ∧ fs.Resolves trail names found ∧
    fs.Knows pending met' ∧ ∀ link, met'.lookup link = some none → met.lookup link = some none

/-- A way of resolving is right for names on which no link is met that is still pending. -/
def Solves (fs : FileSystem)
    (follow : Met → Trail → List String → Except PathError (Met × Resolution))
    (pending : List Location) : Prop :=
  ∀ met trail names, fs.Knows pending met → (∀ name ∈ names, '\x00' ∉ name.toList) →
    fs.LoopFree pending trail names → fs.WithinLimits pending trail names →
    fs.Solved pending met trail names (follow met trail names)

/-- No target of a link holds U+0000. -/
def HasPlainTargets (fs : FileSystem) : Prop :=
  ∀ location target, fs.entry? location = some (.link target) → '\x00' ∉ target.toList

theorem entry?_eq_lookup {location : Location} (below : location ≠ []) :
    fs.entry? location = fs.entries.lookup location := if_neg below

theorem entry?_mem {location : Location} {entry : Entry} (h : fs.entry? location = some entry)
    (below : location ≠ []) : (location, entry) ∈ fs.entries := by
  rw [entry?_eq_lookup below] at h
  obtain ⟨before, after, shape, -⟩ := List.lookup_eq_some_iff.1 h
  simp [shape]

theorem ne_nil_of_link {location : Location} (h : fs.entry? location = some (.link target)) :
    location ≠ [] := by
  rintro rfl
  cases h

theorem hasPlainTargets_of_entries
    (plain : ∀ entry ∈ fs.entries, ∀ target, entry.2 = .link target → '\x00' ∉ target.toList) :
    fs.HasPlainTargets := fun _ target link =>
  plain _ (entry?_mem link (ne_nil_of_link link)) target rfl

theorem resolveWith_solves (plain : fs.HasPlainTargets)
    {follow : Met → Trail → List String → Except PathError (Met × Resolution)}
    (follows : ∀ location target, fs.entry? location = some (.link target) → location ∉ pending →
      fs.Solves follow (location :: pending)) :
    fs.Solves (fs.resolveWith follow) pending := by
  intro met trail names
  induction names generalizing met trail with
  | nil =>
    intro knows _ _ _
    exact ⟨met, trail, rfl, .done, knows, fun _ h => h⟩
  | cons name names ih =>
    intro knows valid loopFree within
    obtain ⟨first, others⟩ := List.forall_mem_cons.1 valid
    cases turn : fs.turn trail name with
    | on next =>
      obtain ⟨met', found, outcome, resolves, rest⟩ :=
        ih met next knows others ((everyLink_on turn).1 loopFree) ((everyLink_on turn).1 within)
      rw [resolveWith_on turn first]
      exact ⟨met', found, outcome, .on turn resolves, rest⟩
    | link target =>
      have entry := (turn_eq_link_iff.1 turn).2
      have fresh := loopFree _ _ (.here turn)
      have short := within _ _ (.here turn)
      cases before : met.lookup (trail.push name) with
      | none =>
        obtain ⟨met', behind, outcome, inside, knows', open'⟩ :=
          follows _ target entry fresh _ (startOf trail target) (Path.namesOf target)
            (knows.cons_none (trail.push name))
            (fun name member => (isPlainName_of_mem_namesOf (plain _ _ entry) member).2)
            (fun _ _ later => loopFree _ _ (.inside turn later))
            (fun _ _ later => within _ _ (.inside turn later))
        rw [resolveWith_follow turn first short before outcome]
        obtain ⟨-, -, loopFree'⟩ := (everyLink_link turn inside).1 loopFree
        obtain ⟨-, -, within'⟩ := (everyLink_link turn inside).1 within
        obtain ⟨met'', found, outcome', resolves, knows'', open''⟩ :=
          ih _ behind (knows.cons_some turn inside knows' open') others loopFree' within'
        exact ⟨met'', found, outcome', .link turn inside resolves, knows'',
          fun link found' => lookup_of_open open' link (open'' link found')⟩
      | some known =>
        rw [resolveWith_link turn first short, before]
        cases known with
        | none => exact absurd (knows.unknown _ before) fresh
        | some behind =>
          have inside := knows.known _ _ _ _ turn before
          obtain ⟨-, -, loopFree'⟩ := (everyLink_link turn inside).1 loopFree
          obtain ⟨-, -, within'⟩ := (everyLink_link turn inside).1 within
          obtain ⟨met', found, outcome, resolves, rest⟩ :=
            ih met behind knows others loopFree' within'
          exact ⟨met', found, outcome, .link turn inside resolves, rest⟩

/-! ## The depth -/

/-- How many entries stand at none of the locations. -/
def countOutside (fs : FileSystem) (pending : List Location) : Nat :=
  ((fs.entries.map Prod.fst).filter (· ∉ pending)).length

theorem countOutside_le (fs : FileSystem) (pending : List Location) :
    fs.countOutside pending ≤ fs.entries.length :=
  Nat.le_trans (List.length_filter_le _ _) (Nat.le_of_eq (List.length_map Prod.fst))

theorem countOutside_cons_lt {location : Location}
    (entry : fs.entry? location = some (.link target)) (fresh : location ∉ pending) :
    fs.countOutside (location :: pending) < fs.countOutside pending := by
  have stands : location ∈ fs.entries.map Prod.fst :=
    List.mem_map_of_mem (entry?_mem entry (ne_nil_of_link entry))
  have split : (fs.entries.map Prod.fst).filter (· ∉ location :: pending) =
      ((fs.entries.map Prod.fst).filter (· ∉ pending)).filter (· ≠ location) := by
    simp [List.filter_filter]
  rw [countOutside, countOutside, split, List.length_filter_lt_length_iff_exists]
  exact ⟨location, by simp [stands, fresh], by simp⟩

/-- A depth of as many links as are not being resolved is enough. -/
theorem resolve_solves (plain : fs.HasPlainTargets) {depth : Nat}
    (enough : fs.countOutside pending ≤ depth) : fs.Solves (fs.resolve depth) pending := by
  induction depth generalizing pending with
  | zero =>
    refine resolveWith_solves plain fun location target entry fresh => ?_
    have := countOutside_cons_lt entry fresh
    omega
  | succ depth ih =>
    refine resolveWith_solves plain fun location target entry fresh => ih ?_
    have := countOutside_cons_lt entry fresh
    omega

end

end FileSystem

end FileRouting
