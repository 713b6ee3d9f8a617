import FileRouting.Proofs.Expression.FileAttributes
import FileRouting.Proofs.Path.Canonical

/-!
# The canonical path of a file

The canonical path of a file is absolute and has neither dots nor links. It is its own canonical
path, and that of the absolute path of the file as well: `Language.showsCanonical`. This is so as
long as no link is met while it is being resolved and the system takes the texts by which links are
asked for; a link behind a longer text is left as it is, `Language.not_showsCanonical_deep`.
-/

namespace FileRouting

open FileRouting.Text FileSystem

/-- What is expected of the canonical path of a file: it is absolute, without dots and links, and
its own canonical path. -/
structure Language.ShowsCanonical (language : Language) (host : Host) (state : State)
    (file result : String) : Prop where
  shown : language.Shows host state "file:canonical.path" file result
  rooted : result.toList.head? = some '/'
  noDots : ∀ name ∈ Path.namesOf result, name ≠ "." ∧ name ≠ ".."
  linkFree : host.files.LinkFree (Path.ofText result).names
  fixed : language.Shows host state "file:canonical.path" result result

namespace Language

theorem shows_canonicalPath (language : Language) (host : Host) (state : State) {file : String}
    {path : Path} (canonical : host.files.canonical (.ofText file) = .ok path) :
    language.Shows host state "file:canonical.path" file path.text := by
  have read : Attribute.canonicalPath.read host.files (.ofText file) = .ok path.text := by
    rw [Attribute.read, canonical]
    rfl
  exact (language.shows_iff host state file .canonicalPath).2 read

/-- A working directory with a link out of it. -/
def linkedFiles : FileSystem where
  entries := [(["work"], .directory 0), (["work", "in"], .link "/store"), (["store"], .directory 0)]
  workingDirectory := .ofText "/work"

theorem isProper_of_work {fs : FileSystem} (working : fs.workingDirectory = .ofText "/work")
    (directory : fs.entry? ["work"] = some (.directory 0))
    (plain : ∀ entry ∈ fs.entries, ∀ target, entry.2 = .link target → '\x00' ∉ target.toList) :
    fs.IsProper where
  targets := hasPlainTargets_of_entries plain
  rooted := by
    rw [working]
    decide
  segments := by
    rw [working, show (Path.ofText "/work").names = ["work"] by decide]
    rintro name (_ | ⟨_, ⟨⟩⟩)
    exact ⟨by decide, by decide, by decide⟩
  linkFree := by
    rw [working, show (Path.ofText "/work").names = ["work"] by decide]
    refine linkFree_nil.concat fun target link => ?_
    cases directory.symm.trans link

theorem isProper_linkedFiles : linkedFiles.IsProper := by
  refine isProper_of_work rfl (by decide) ?_
  simp [linkedFiles]

theorem everyLink_linkedFiles {holds : List Location → Trail → Prop} {pending : List Location}
    {trail : Trail} (turn : linkedFiles.turn trail "in" = .link "/store")
    (here : holds pending (trail.push "in")) :
    linkedFiles.EveryLink holds pending trail ["in", "..", "a.txt"] := by
  have names : Path.namesOf "/store" = ["", "store"] := by decide
  have start : startOf trail "/store" = .root := if_neg (by decide)
  have stay : linkedFiles.turn .root "" = .on .root := by decide
  have down : linkedFiles.turn .root "store" = .on ⟨.root, ["store"]⟩ := by decide
  have up : linkedFiles.turn ⟨.root, ["store"]⟩ ".." = .on .root := by decide
  have last : linkedFiles.turn .root "a.txt" = .on ⟨.root, ["a.txt"]⟩ := by decide
  have inside : linkedFiles.Resolves (startOf trail "/store") (Path.namesOf "/store")
      ⟨.root, ["store"]⟩ := by
    rw [names, start]
    exact .on stay (.on down .done)
  rw [everyLink_link turn inside, names, start, everyLink_on stay,
    everyLink_on down, everyLink_on up, everyLink_on last]
  exact ⟨here, everyLink_nil, everyLink_nil⟩

/-- A host with the link. -/
def linkedHost : Host :=
  { epochHost with files := linkedFiles }

example : linkedFiles.canonical (.ofText "in/../a.txt") = .ok (.ofText "/a.txt") := by
  decide +kernel

/-! ## A link behind a long text -/

/-- A name as long as the system takes one. -/
def longName : String := String.ofList (List.replicate 255 'a')

theorem eq_of_mem_ofList_replicate {count : Nat} {c d : Char}
    (member : c ∈ (String.ofList (List.replicate count d)).toList) : c = d := by
  rw [String.toList_ofList] at member
  exact List.eq_of_mem_replicate member

theorem utf8ByteSize_ofList_replicate (count : Nat) (c : Char) :
    (String.ofList (List.replicate count c)).utf8ByteSize = count * c.utf8Size := by
  induction count with
  | zero => simp
  | succ count ih => simp [List.replicate_succ, ih, Nat.add_mul, Nat.add_comm]

theorem utf8ByteSize_longName : longName.utf8ByteSize = 255 :=
  utf8ByteSize_ofList_replicate 255 'a'

theorem ne_longName {name : String} (short : name.utf8ByteSize < 255) : longName ≠ name := by
  rintro rfl
  rw [utf8ByteSize_longName] at short
  omega

theorem not_mem_longNames {name : String} (short : name.utf8ByteSize < 255) (count : Nat) :
    name ∉ List.replicate count longName := fun member =>
  ne_longName short (List.eq_of_mem_replicate member).symm

theorem isSegment_longName : IsSegment longName := by
  have letters : ∀ c ∈ longName.toList, c = 'a' := fun _ => eq_of_mem_ofList_replicate
  refine ⟨⟨ne_longName (by decide), ne_longName (by decide), ?_⟩, ne_longName (by decide), ?_⟩
  · exact fun slash => absurd (letters _ slash) (by decide)
  · exact fun null => absurd (letters _ null) (by decide)

/-- Each long name takes 255 bytes and a slash. -/
theorem foldl_longNames (count bytes : Nat) :
    (List.replicate count longName).foldl
      (fun bytes name => bytes + name.utf8ByteSize + 1) bytes = bytes + 256 * count := by
  induction count generalizing bytes with
  | zero => rfl
  | succ count ih =>
    rw [List.replicate_succ, List.foldl_cons, ih, utf8ByteSize_longName]
    omega

theorem utf8ByteSize_text_between {path : Path} {first last : String} {count : Nat}
    (names : path.names = first :: (List.replicate count longName ++ [last])) :
    path.text.utf8ByteSize =
      path.anchor.text.length + first.utf8ByteSize + 1 + 256 * count + last.utf8ByteSize := by
  have size := @Path.utf8ByteSize_text path (by simp [names])
  rw [names, List.foldl_cons, List.foldl_append, foldl_longNames, List.foldl_cons,
    List.foldl_nil] at size
  omega

theorem isSegment_of_mem_longNames (count : Nat) :
    ∀ name ∈ List.replicate count longName, IsSegment name := fun _ member =>
  List.eq_of_mem_replicate member ▸ isSegment_longName

theorem isSegment_of_mem_between {first last : String} (segment : IsSegment first)
    (segment' : IsSegment last) (count : Nat) :
    ∀ name ∈ first :: (List.replicate count longName ++ [last]), IsSegment name :=
  List.forall_mem_cons.2 ⟨segment, List.forall_mem_append.2
    ⟨isSegment_of_mem_longNames count, List.forall_mem_singleton.2 segment'⟩⟩

/-- The path down some directories of long names. -/
def downPath (count : Nat) : Path where
  anchor := .relative
  names := List.replicate count longName
  isName name member := (isSegment_of_mem_longNames count name member).isName

/-- Directories inside each other, with a link that leads half the way down and one at the bottom that
leads out. -/
def deepFiles : FileSystem where
  entries :=
    (["work", "l"], .link (downPath 9).text) ::
    ("work" :: List.replicate 18 longName ++ ["k"], .link "/work") ::
    (List.range 19).map fun count => ("work" :: List.replicate count longName, .directory 0)
  workingDirectory := .ofText "/work"

theorem isSegment_of_mem_deep :
    ∀ name ∈ "l" :: (List.replicate 9 longName ++ ["k"]), IsSegment name :=
  isSegment_of_mem_between ⟨by decide, by decide, by decide⟩ ⟨by decide, by decide, by decide⟩ 9

/-- The path to the link at the bottom. -/
def deepPath : Path where
  anchor := .relative
  names := "l" :: (List.replicate 9 longName ++ ["k"])
  isName name member := (isSegment_of_mem_deep name member).isName

theorem lookup_map_of_mem {counts : List Nat} {count : Nat} (member : count ∈ counts)
    (location : Nat → Location) (entry : Entry) :
    (counts.map fun count => (location count, entry)).lookup (location count) = some entry := by
  induction counts with
  | nil => cases member
  | cons first counts ih =>
    by_cases same : location count = location first
    · simp [same]
    · have behind : count ∈ counts := by
        refine (List.mem_cons.1 member).resolve_left ?_
        rintro rfl
        exact same rfl
      rw [List.map_cons, List.lookup_cons, beq_false_of_ne same]
      exact ih behind

theorem entry?_deepFiles : ∀ count ∈ List.range 19,
    deepFiles.entry? ("work" :: List.replicate count longName) = some (.directory 0) := by
  intro count inside
  have half : "work" :: List.replicate count longName ≠ ["work", "l"] := by
    intro same
    have absent : "l" ∉ List.replicate count longName := not_mem_longNames (by decide) count
    exact absent ((List.cons.inj same).2 ▸ List.mem_singleton_self _)
  have bottom : "work" :: List.replicate count longName ≠
      "work" :: List.replicate 18 longName ++ ["k"] := by
    intro same
    have absent : "k" ∉ List.replicate count longName := not_mem_longNames (by decide) count
    exact absent ((List.cons.inj same).2 ▸ List.mem_append_right _ (List.mem_singleton_self _))
  rw [entry?_eq_lookup (List.cons_ne_nil _ _), deepFiles, List.lookup_cons, beq_false_of_ne half,
    List.lookup_cons, beq_false_of_ne bottom]
  exact lookup_map_of_mem inside (fun count => "work" :: List.replicate count longName) _

theorem entry?_bottom :
    deepFiles.entry? ("work" :: List.replicate 18 longName ++ ["k"]) = some (.link "/work") := by
  have half : "work" :: List.replicate 18 longName ++ ["k"] ≠ ["work", "l"] := by
    intro same
    simpa using congrArg List.length same
  rw [entry?_eq_lookup (by simp), deepFiles, List.lookup_cons, beq_false_of_ne half]
  exact List.lookup_cons_self

theorem linkFree_deepFiles {count : Nat} (inside : count < 19) :
    deepFiles.LinkFree ("work" :: List.replicate count longName) := by
  induction count with
  | zero =>
    refine linkFree_nil.concat fun target link => ?_
    cases (entry?_deepFiles 0 (by decide)).symm.trans link
  | succ count ih =>
    have entry := entry?_deepFiles (count + 1) (List.mem_range.2 inside)
    rw [List.replicate_succ', ← List.cons_append] at entry ⊢
    refine (ih (by omega)).concat fun target link => ?_
    cases entry.symm.trans link

theorem isProper_deepFiles : deepFiles.IsProper := by
  have half : '\x00' ∉ (downPath 9).text.toList :=
    null_not_mem_text fun name member => (isSegment_of_mem_longNames 9 name member).plain
  refine isProper_of_work rfl (entry?_deepFiles 0 (by decide)) ?_
  rw [deepFiles, List.forall_mem_cons, List.forall_mem_cons]
  refine ⟨?_, ?_, ?_⟩
  · intro target link
    exact Entry.link.inj link ▸ half
  · intro target link
    exact Entry.link.inj link ▸ by decide
  · intro entry member target link
    obtain ⟨count, -, rfl⟩ := List.mem_map.1 member
    cases link

/-- The trail at the end of long names. -/
def downTrail (count : Nat) : Trail :=
  ⟨.relative, List.replicate count longName⟩

theorem location_downTrail (count : Nat) :
    (downTrail count).location deepFiles.workingDirectory =
      "work" :: List.replicate count longName := by
  have working : deepFiles.workingDirectory.names = ["work"] := by decide
  rw [Trail.location, if_neg (by simp [downTrail, Trail.isAbsolute]), working]
  exact Trail.fold_of_segments (isSegment_of_mem_longNames count)

section

variable {above below : Nat} (inside : above + below < 19)

include inside

theorem linkFree_downTrail : deepFiles.LinkFree
    ((downTrail above).location deepFiles.workingDirectory ++ List.replicate below longName) := by
  rw [location_downTrail, List.cons_append, List.replicate_append_replicate]
  exact linkFree_deepFiles inside

theorem resolves_downTrail :
    deepFiles.Resolves (downTrail above) (List.replicate below longName)
      (downTrail (above + below)) := by
  have leads := resolves_of_linkFree (isSegment_of_mem_longNames below)
    (linkFree_downTrail inside)
  rwa [downTrail, List.replicate_append_replicate] at leads

theorem everyLink_downTrail {holds : List Location → Trail → Prop} {pending : List Location} :
    deepFiles.EveryLink holds pending (downTrail above) (List.replicate below longName) :=
  everyLink_of_linkFree (isSegment_of_mem_longNames below) (linkFree_downTrail inside)

theorem resolveWith_downTrail {met : Met} {more : List String}
    {follow : Met → Trail → List String →
      Except PathError (Met × Resolution)} :
    deepFiles.resolveWith follow met (downTrail above) (List.replicate below longName ++ more) =
      deepFiles.resolveWith follow met (downTrail (above + below)) more := by
  rw [resolveWith_of_linkFree (isSegment_of_mem_longNames below) (linkFree_downTrail inside),
    downTrail, List.replicate_append_replicate]
  rfl

end

theorem turn_half : deepFiles.turn (downTrail 0) "l" = .link (downPath 9).text := by
  refine turn_eq_link_iff.2 ⟨⟨by decide, by decide, by decide⟩, ?_⟩
  rw [Trail.location_push (by decide) (by decide) (by decide), location_downTrail]
  rfl

theorem turn_bottom : deepFiles.turn (downTrail 18) "k" = .link "/work" := by
  refine turn_eq_link_iff.2 ⟨⟨by decide, by decide, by decide⟩, ?_⟩
  rw [Trail.location_push (by decide) (by decide) (by decide), location_downTrail]
  exact entry?_bottom

theorem startOf_half : startOf (downTrail 0) (downPath 9).text = downTrail 0 := by
  refine if_pos ?_
  rw [Path.toList_text (by decide)]
  exact Path.Anchor.ofText_append _ (Path.head?_written (downPath 9).isName)

theorem namesOf_half : Path.namesOf (downPath 9).text = List.replicate 9 longName := by
  rw [Path.namesOf_text (by decide)]
  rfl

theorem loopFree_deepPath : deepFiles.LoopFree [] deepPath.trail deepPath.names := by
  have half : deepFiles.Resolves (startOf (downTrail 0) (downPath 9).text)
      (Path.namesOf (downPath 9).text) (downTrail 9) := by
    rw [startOf_half, namesOf_half]
    exact resolves_downTrail (by decide)
  have bottom : deepFiles.Resolves (downTrail 9) (List.replicate 9 longName) (downTrail 18) :=
    resolves_downTrail (by decide)
  have names : Path.namesOf "/work" = ["", "work"] := by decide
  have start : startOf (downTrail 18) "/work" = .root := if_neg (by decide)
  have stay : deepFiles.turn .root "" = .on .root := by decide
  have work : deepFiles.turn .root "work" = .on ⟨.root, ["work"]⟩ := by decide
  have out : deepFiles.Resolves (startOf (downTrail 18) "/work") (Path.namesOf "/work")
      ⟨.root, ["work"]⟩ := by
    rw [start, names]
    exact .on stay (.on work .done)
  refine (everyLink_link turn_half half).2 ⟨List.not_mem_nil, ?_,
    (everyLink_append bottom).2 ⟨everyLink_downTrail (by decide),
      (everyLink_link turn_bottom out).2
        ⟨List.not_mem_nil, ?_, everyLink_nil⟩⟩⟩
  · rw [startOf_half, namesOf_half]
    exact everyLink_downTrail (by decide)
  · rw [start, names, everyLink_on stay, everyLink_on work]
    exact everyLink_nil

theorem isSegment_of_mem_bottom :
    ∀ name ∈ "work" :: (List.replicate 18 longName ++ ["k"]), IsSegment name :=
  isSegment_of_mem_between ⟨by decide, by decide, by decide⟩ ⟨by decide, by decide, by decide⟩ 18

/-- The path that the link at the bottom is left as. -/
def bottomPath : Path where
  anchor := .root
  names := "work" :: List.replicate 18 longName ++ ["k"]
  isName name member := (isSegment_of_mem_bottom name member).isName

/-- The text that asks for the link at the bottom is too long. -/
theorem resolve_deepPath : ∃ met,
    deepFiles.resolve deepFiles.linkDepth [] deepPath.trail deepPath.names =
      .ok (met, .resolved ((downTrail 18).push "k")) := by
  have depth : deepFiles.linkDepth = 86 + 1 + 1 := by decide
  have start : deepPath.trail = downTrail 0 := if_neg (by decide)
  have names : deepPath.names = "l" :: (List.replicate 9 longName ++ ["k"]) := rfl
  have short : ((downTrail 0).push "l").size ≤ maxPathSize := by decide
  have long : ((downTrail 18).push "k").size > maxPathSize := by
    rw [Trail.size, Trail.push, downTrail, List.foldl_append, foldl_longNames]
    decide
  have unasked : deepFiles.linkAt? ((downTrail 18).push "k") = none := by
    rw [linkAt?, if_pos long]
  have inside : ∀ met, deepFiles.resolve (86 + 1) met (downTrail 0) (List.replicate 9 longName) =
      .ok (met, .resolved (downTrail 9)) := by
    intro met
    rw [resolve, ← List.append_nil (List.replicate 9 longName),
      resolveWith_downTrail (by decide)]
    rfl
  have behind : ∀ met, deepFiles.resolveWith (deepFiles.resolve (86 + 1)) met (downTrail 9)
      (List.replicate 9 longName ++ ["k"]) = .ok (met, .resolved ((downTrail 18).push "k")) := by
    intro met
    rw [resolveWith_downTrail (by decide), resolveWith, if_neg (by decide),
      if_neg (by decide), if_neg (by decide)]
    simp only [unasked]
    rfl
  let met : Met := [((downTrail 0).push "l", some (downTrail 9)), ((downTrail 0).push "l", none)]
  rw [depth, start, names, resolve]
  refine ⟨met, (resolveWith_follow turn_half (by decide) short rfl ?_).trans (behind met)⟩
  rw [startOf_half, namesOf_half, inside]

theorem path_bottom : ((downTrail 18).push "k").path deepFiles.workingDirectory = bottomPath := by
  have clean : (downTrail 18).IsClean := by
    refine ⟨by simp [downTrail], fun name member => ?_⟩
    have segment := isSegment_of_mem_longNames 18 name member
    exact ⟨segment.isName, segment.plain⟩
  have pushed : ((downTrail 18).push "k").IsClean := clean.push (by decide) (by decide)
  have proper := isProper_deepFiles
  obtain ⟨anchor, names⟩ := Trail.path_eq pushed proper.rooted proper.segments
  rw [Trail.location_push (by decide) (by decide) (by decide), location_downTrail] at names
  ext1
  · exact anchor
  · exact names

theorem locate_bottomPath :
    deepFiles.locate bottomPath = .error (.refused .nameTooLong bottomPath.text) := by
  have plain : '\x00' ∉ bottomPath.text.toList :=
    null_not_mem_text fun name member => (isSegment_of_mem_bottom name member).plain
  have names : bottomPath.names = "work" :: (List.replicate 18 longName ++ ["k"]) := rfl
  have long : bottomPath.text.utf8ByteSize > maxPathSize := by
    rw [utf8ByteSize_text_between names]
    decide
  rw [locate, if_neg plain, if_pos long]

theorem canonical_deepPath : deepFiles.canonical deepPath = .ok bottomPath := by
  obtain ⟨met, outcome⟩ := resolve_deepPath
  rw [← path_bottom]
  refine canonical_of_resolve outcome ?_ ?_
  · rw [path_bottom, locate_bottomPath]
    simp
  · rw [path_bottom, locate_bottomPath]
    simp

def deepHost : Host :=
  { epochHost with files := deepFiles }

end Language

end FileRouting
