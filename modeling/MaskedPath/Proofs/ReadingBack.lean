import MaskedPath.Proofs.ArchiveKeys
import MaskedPath.Proofs.LibraryMasks
import MaskedPath.Proofs.RefusedArchives

/-!
# Reading what was located

What a chain of searches locates or lists is offered by one of its entries: a file in a directory, or
a member of an archive. The location is made of a resolved path, and reading it gives what is read by
the path that was resolved, unless the system refuses a path, for its length or for lack of a
permission.
-/

namespace MaskedPath

variable {fs : FileSystem}

/-! ## Files and archives -/

namespace FileSystem

variable {p : Path}

theorem read_of_readArchive {archive : Archive} (readable : fs.readArchive p = .ok archive) :
    ∃ bytes, fs.read p = .ok bytes ∧ Archive.parse bytes = .ok archive := by
  unfold readArchive orFail at readable
  obtain ⟨bytes, read, parsed⟩ := bind_eq_ok.mp readable
  exact ⟨bytes, mapError_eq_ok.mp read, mapError_eq_ok.mp parsed⟩

theorem failure_of_readArchive {e : Failure} (failed : fs.readArchive p = .error e) :
    (∃ cause, e = .path cause) ∨ ∃ cause, e = .archive cause := by
  unfold readArchive orFail at failed
  rcases bind_eq_error.mp failed with unread | ⟨bytes, -, refused⟩
  · obtain ⟨cause, -, rfl⟩ := mapError_eq_error.mp unread
    exact .inl ⟨cause, rfl⟩
  · obtain ⟨cause, -, rfl⟩ := mapError_eq_error.mp refused
    exact .inr ⟨cause, rfl⟩

end FileSystem

theorem Archive.read_of_member [Runtime] {a : Archive} {name : Text} {m : Member}
    (found : a.member? name = some m) (holder : Path) :
    a.read holder name = orFail .archive (a.extract m (Quoted.ofText name)) := by
  unfold Archive.read
  rw [found]

theorem Archive.failure_of_read [Runtime] {a : Archive} {name : Text} {holder : Path} {e : Failure}
    (failed : a.read holder name = .error e) :
    e = .missingMember name holder ∨ ∃ cause, e = .archive cause := by
  unfold Archive.read at failed
  cases found : a.member? name with
  | none =>
      rw [found] at failed
      cases failed
      exact .inl rfl
  | some m =>
      rw [found] at failed
      obtain ⟨cause, -, rfl⟩ := mapError_eq_error.mp failed
      exact .inr ⟨cause, rfl⟩

namespace Location

variable [Runtime] {q : Path}

theorem read_ofResolved (absolute : q.anchor ≠ .relative) :
    read fs (ofResolved q) = orFail .path (fs.read q) := by
  unfold read
  rw [splitArchive?_ofResolved, path?_ofResolved absolute]
  rfl

theorem read_ofMemberAt (absolute : q.anchor ≠ .relative) (name : Text) :
    read fs (ofMemberAt (ofResolved q) name) =
      fs.readArchive q >>= fun archive => archive.read q (memberName name) := by
  unfold read
  rw [splitArchive?_ofMemberAt (mark_not_mem_ofResolved q)]
  dsimp only
  rw [path?_ofResolved absolute]
  rfl

end Location

/-! ## Offers -/

namespace Search

/-- Whether an entry offers a resource at a location: the path that the location is made of, the place
of the file that it leads to, readable or not, and what is read in there. -/
inductive Offers [Runtime] (fs : FileSystem) (name : Text) (entry : Path) (location : Location) :
    Path → Place → Except Failure Bytes → Prop
  | file {there : Place} {content : Bytes} (directory : fs.isDirectory entry = .ok true)
      (leads : fs.LeadsToFile (entry.join name) there content)
      (made : Location.ofFile fs (entry.join name) = .ok location) :
      Offers fs name entry location (entry.join name) there (.ok content)
  | member {there : Place} {bytes : Bytes} {archive : Archive}
      (leads : fs.LeadsToFile entry there bytes) (free : there ∉ fs.closed)
      (parsed : Archive.parse bytes = .ok archive) (held : (archive.member? name).isSome)
      (made : Location.ofMember fs entry name = .ok location) :
      Offers fs name entry location entry there (archive.read entry name)

variable {name : Text} {entry : Path} {location : Location}

theorem holdsMember_eq_true (holds : holdsMember fs entry name = .ok true) :
    ∃ archive, fs.readArchive entry = .ok archive ∧ (archive.member? name).isSome := by
  unfold holdsMember at holds
  cases readable : fs.readArchive entry with
  | ok archive =>
      rw [readable] at holds
      exact ⟨archive, rfl, Except.ok.inj holds⟩
  | error e =>
      rw [readable] at holds
      dsimp only at holds
      split_ifs at holds
      cases holds

theorem offers_of_located [Runtime] (found : located fs name entry = .ok (some location)) :
    ∃ p there direct, Offers fs name entry location p there direct := by
  unfold located orFail at found
  obtain ⟨directory, directory_eq, found⟩ := bind_eq_ok.mp found
  cases directory with
  | true =>
      obtain ⟨file, file_eq, found⟩ := bind_eq_ok.mp found
      cases file with
      | false => cases found
      | true =>
          obtain ⟨location', made, found⟩ := bind_eq_ok.mp found
          cases found
          obtain ⟨there, content, leads⟩ :=
            FileSystem.exists_leadsToFile_of_isFile (mapError_eq_ok.mp file_eq)
          exact ⟨_, _, _, .file (mapError_eq_ok.mp directory_eq) leads (mapError_eq_ok.mp made)⟩
  | false =>
      obtain ⟨file, -, found⟩ := bind_eq_ok.mp found
      cases file with
      | false => cases found
      | true =>
          obtain ⟨holds, holds_eq, found⟩ := bind_eq_ok.mp found
          cases holds with
          | false => cases found
          | true =>
              obtain ⟨location', made, found⟩ := bind_eq_ok.mp found
              cases found
              obtain ⟨archive, readable, held⟩ := holdsMember_eq_true holds_eq
              obtain ⟨bytes, read, parsed⟩ := FileSystem.read_of_readArchive readable
              obtain ⟨there, leads, free⟩ := FileSystem.exists_leadsToFile_of_read read
              exact ⟨_, _, _, .member leads free parsed held (mapError_eq_ok.mp made)⟩

theorem located_of_offers [Runtime] {p : Path} {there : Place} {direct : Except Failure Bytes}
    (offers : Offers fs name entry location p there direct) :
    located fs name entry = .ok (some location) := by
  unfold located
  cases offers with
  | file directory leads made =>
      have isFile : fs.isFile (entry.join name) = .ok true := leads.holds_eq FileSystem.isFileNode
      rw [directory, isFile, made]
      rfl
  | @member there bytes archive leads free parsed held made =>
      have read : fs.read entry = .ok bytes := by rw [leads.read_eq, if_neg free]
      have holds : holdsMember fs entry name = .ok true := by
        unfold holdsMember
        rw [FileSystem.readArchive_of_read read parsed]
        exact congrArg Except.ok held
      rw [FileSystem.isDirectory_of_read read, FileSystem.isFile_of_read read, holds, made]
      rfl

/-! ## Locations of a search -/

section

variable {α β ε : Type} {f : α → Except ε (Option β)} {xs : List α} {y : β}

theorem exists_of_findSomeM (found : xs.findSomeM? f = .ok (some y)) :
    ∃ x ∈ xs, f x = .ok (some y) := by
  induction xs with
  | nil => cases found
  | cons x xs ih =>
      rw [List.findSomeM?_cons] at found
      obtain ⟨hit, first, found⟩ := bind_eq_ok.mp found
      cases hit with
      | some z =>
          cases found
          exact ⟨x, List.mem_cons_self, first⟩
      | none =>
          obtain ⟨later, member, hits⟩ := ih found
          exact ⟨later, List.mem_cons_of_mem _ member, hits⟩

theorem exists_of_mem_mapM {g : α → Except ε β} {ys : List β} (done : xs.mapM g = .ok ys)
    (member : y ∈ ys) : ∃ x ∈ xs, g x = .ok y := by
  induction xs generalizing ys with
  | nil =>
      cases done
      cases member
  | cons x xs ih =>
      rw [List.mapM_cons] at done
      obtain ⟨first, given, done⟩ := bind_eq_ok.mp done
      obtain ⟨others, rest, done⟩ := bind_eq_ok.mp done
      obtain rfl := Except.ok.inj done
      rcases List.mem_cons.mp member with rfl | later
      · exact ⟨x, List.mem_cons_self, given⟩
      · obtain ⟨other, inside, given⟩ := ih rest later
        exact ⟨other, List.mem_cons_of_mem _ inside, given⟩

end

end Search

def Replies.LeadsTo (p : Replies) (name : Text) (location : Location) : Prop :=
  p.locate name = .ok (some location) ∨
    ∃ listed, p.enumerate name = .ok listed ∧ location ∈ listed

theorem Resolver.located_of_chain [Runtime] {judges : Nat → Judge} {levels : List (List Path)}
    {name : Text} {location : Location} (given : ((chain levels).replies fs judges).LeadsTo name location) :
    ∃ entry ∈ levels.flatten,
      Search.located fs (Search.plainName name) entry = .ok (some location) := by
  rw [replies_chain] at given
  change (Replies.searched fs levels.flatten .nothing).LeadsTo name location at given
  by_cases named : Search.plainName name = []
  · rcases given with located | ⟨listed, enumerated, member⟩
    · rw [Replies.locate_of_settled (.inr named)] at located
      cases located
    · rw [Replies.enumerate_of_settled (.inr named)] at enumerated
      cases enumerated
      cases member
  · rcases given with located | ⟨listed, enumerated, member⟩
    · rw [Replies.locate_of_open rfl named] at located
      exact Search.exists_of_findSomeM located
    · rw [Replies.enumerate_of_named named] at enumerated
      obtain ⟨above, nothing, enumerated⟩ := bind_eq_ok.mp enumerated
      obtain ⟨own, tried, enumerated⟩ := bind_eq_ok.mp enumerated
      cases nothing
      cases enumerated
      exact Search.exists_of_mem_mapM tried (List.reduceOption_mem_iff.mp member)

/-! ## Reading -/

namespace Search

variable [Runtime] {name : Text} {entry p : Path} {location : Location} {there : Place}
  {direct : Except Failure Bytes}

theorem Offers.ne_missing (offers : Offers fs name entry location p there direct) (member : Text)
    (holder : Path) : direct ≠ .error (.missingMember member holder) := by
  cases offers with
  | file directory leads made => simp
  | @member there bytes archive leads free parsed held made =>
      obtain ⟨m, found⟩ := Option.isSome_iff_exists.mp held
      rw [Archive.read_of_member found]
      intro missing
      obtain ⟨cause, -, failed⟩ := mapError_eq_error.mp missing
      cases failed

theorem Offers.supported (offers : Offers fs name entry location p there direct) {e : Failure}
    (failed : Location.read fs location = .error e) (other : Location) :
    e ≠ .unsupportedArchive other ∧ e ≠ .unsupportedLocation other := by
  cases offers with
  | file directory leads made =>
      obtain ⟨q, resolved, rfl⟩ := Location.ofFile_eq_ok.mp made
      rw [Location.read_ofResolved (FileSystem.anchor_of_resolve resolved).1] at failed
      obtain ⟨cause, -, rfl⟩ := mapError_eq_error.mp failed
      simp
  | member leads free parsed held made =>
      obtain ⟨q, resolved, rfl⟩ := Location.ofMember_eq_ok made
      rw [Location.read_ofMemberAt (FileSystem.anchor_of_resolve resolved).1] at failed
      rcases bind_eq_error.mp failed with unreadable | ⟨archive, -, unread⟩
      · rcases FileSystem.failure_of_readArchive unreadable with ⟨cause, rfl⟩ | ⟨cause, rfl⟩ <;> simp
      · rcases Archive.failure_of_read unread with rfl | ⟨cause, rfl⟩ <;> simp

/-- Reading an offered location gives what is read in the file that the location's path leads to,
unless the system refuses the path that this resolves to, or the file may not be read. -/
theorem Offers.read_eq (tree : fs.IsTree) (plain : Location.memberName name = name)
    (offers : Offers fs name entry location p there direct) :
    ∃ q, fs.resolve p = .ok q ∧ (fs.SeesLinks p → Location.read fs location =
      if FileSystem.pathMax ≤ FileSystem.byteLength q.render then
        .error (.path (.system .nameTooLong q.render))
      else if fs.Bars (.ofPath q) ∨ there ∈ fs.closed then
        .error (.path (.system .noPermission q.render))
      else direct) := by
  cases offers with
  | @file there content directory leads made =>
      obtain ⟨q, resolved, rfl⟩ := Location.ofFile_eq_ok.mp made
      have absolute := (FileSystem.anchor_of_resolve resolved).1
      refine ⟨q, resolved, fun sees => ?_⟩
      rw [Location.read_ofResolved absolute, tree.read_of_resolve resolved sees leads]
      split_ifs <;> rfl
  | @member there bytes archive leads free parsed held made =>
      obtain ⟨q, resolved, rfl⟩ := Location.ofMember_eq_ok made
      have absolute := (FileSystem.anchor_of_resolve resolved).1
      obtain ⟨m, found⟩ := Option.isSome_iff_exists.mp held
      refine ⟨q, resolved, fun sees => ?_⟩
      have at_resolved := tree.read_of_resolve resolved sees leads
      rw [Location.read_ofMemberAt absolute, plain, Archive.read_of_member found]
      unfold FileSystem.readArchive
      split_ifs at at_resolved ⊢
      · rw [at_resolved]
        rfl
      · rw [at_resolved]
        rfl
      · rw [at_resolved]
        change (orFail .archive (Archive.parse bytes) >>= _) = _
        rw [parsed]
        exact Archive.read_of_member found q

end Search

/-- What a chain locates or lists is offered by an entry of it. If the system refuses no link that is
come to while the entry's path is resolved, reading the location gives what is read of the file below
the directory, or of the member of the archive; it fails if the resolved path is too long, and if that
leads through a directory that may not be searched, or the file may not be read. -/
theorem located_reads_back [Runtime] {s : Store} (tree : fs.IsTree) (reached : Reachable fs s)
    {levels : List (List Path)} {name : Text} {location : Location}
    (given : ((Resolver.chain levels).answers fs s).LeadsTo name location) :
    let plain := Search.plainName name
    (∃ entry ∈ levels.flatten, ∃ p there direct,
      Search.Offers fs plain entry location p there direct) ∧
      ∀ entry p there direct, Search.Offers fs plain entry location p there direct →
        (∀ e, Location.read fs location = .error e →
          ∀ other, e ≠ .unsupportedArchive other ∧ e ≠ .unsupportedLocation other) ∧
        ∃ q, fs.resolve p = .ok q ∧ (fs.SeesLinks p →
          (FileSystem.pathMax ≤ FileSystem.byteLength q.render →
            Location.read fs location = .error (.path (.system .nameTooLong q.render))) ∧
          (FileSystem.byteLength q.render < FileSystem.pathMax →
            (fs.Bars (.ofPath q) ∨ there ∈ fs.closed →
              Location.read fs location = .error (.path (.system .noPermission q.render))) ∧
            (¬ fs.Bars (.ofPath q) → there ∉ fs.closed → Location.read fs location = direct)) ∧
          ∀ member holder, Location.read fs location ≠ .error (.missingMember member holder)) := by
  intro plain
  have plain_eq : Location.memberName plain = plain := Location.memberName_memberName name
  constructor
  · rw [Resolver.answers_eq_replies reached.faithful] at given
    obtain ⟨entry, member, found⟩ := Resolver.located_of_chain given
    obtain ⟨p, there, direct, offers⟩ := Search.offers_of_located found
    exact ⟨entry, member, p, there, direct, offers⟩
  · intro entry p there direct offers
    obtain ⟨q, resolved, read⟩ := offers.read_eq tree plain_eq
    refine ⟨fun e failed => offers.supported failed, q, resolved, fun sees => ?_⟩
    have read := read sees
    refine ⟨fun long => ?_, fun short => ⟨fun refused => ?_, fun passes open_ => ?_⟩,
      fun member holder => ?_⟩
    · rw [read, if_pos long]
    · rw [read, if_neg (Nat.not_le.mpr short), if_pos refused]
    · rw [read, if_neg (Nat.not_le.mpr short), if_neg (not_or.mpr ⟨passes, open_⟩)]
    · rw [read]
      split_ifs
      · simp
      · simp
      · exact offers.ne_missing member holder

/-! ## Names of signs -/

namespace SignedNames

open scoped MaskedPath.Standard

def files : FileSystem where
  nodes := [([['t'], "d!%41".toList, ['x']], .file [1, 2]), ([['t'], "d!%41".toList], .directory),
    ([['t'], ['l']], .link "d!%41".toList), ([['t'], "a#?.jar".toList], .file Bare.bytes),
    ([['t']], .directory)]
  home := [['t']]

def linked : Path := .parse ['l']

def archive : Path := .parse "a#?.jar".toList

def levels : List (List Path) := [[linked], [archive]]

def loose : Location := "file:///t/d%21%2541/x".toList

def inside : Location := "jar:file:///t/a%23%3F.jar!/x".toList

theorem enumerate_chain : ((Resolver.chain levels).answers files .empty).enumerate "/x".toList =
    .ok [loose, inside] := by
  cbv

theorem isTree : files.IsTree := by
  apply FileSystem.isTree_of_nodes
  · decide
  · rfl

def plainArchive : Archive := ⟨Bare.bytes, [Bare.member]⟩

theorem offers_loose : Search.Offers files ['x'] linked loose (linked.join ['x'])
    [['t'], "d!%41".toList, ['x']] (.ok [1, 2]) :=
  .file (by cbv) ⟨by decide, by cbv⟩ (by cbv)

theorem offers_inside : Search.Offers files ['x'] archive inside archive [['t'], "a#?.jar".toList]
    (plainArchive.read archive ['x']) := by
  have leads : files.LeadsToFile archive [['t'], "a#?.jar".toList] Bare.bytes :=
    ⟨by decide, by cbv⟩
  exact .member leads (by simp [files]) Bare.parse_bytes (by decide) (by cbv)

theorem resolve_loose : files.resolve (linked.join ['x']) = .ok (.parse "/t/d!%41/x".toList) := by
  cbv

theorem resolve_inside : files.resolve archive = .ok (.parse "/t/a#?.jar".toList) := by
  cbv

theorem admits_loose : files.Admits (linked.join ['x']) := by
  have seen : files.spotsSeen (linked.join ['x']) = [⟨true, [['l']]⟩, ⟨true, ["d!%41".toList]⟩,
      ⟨true, ["d!%41".toList, ['x']]⟩, ⟨false, [['t'], "d!%41".toList, ['x']]⟩] := by
    cbv
  unfold FileSystem.Admits
  rw [seen]
  decide

theorem admits_inside : files.Admits archive := by
  have seen : files.spotsSeen archive =
      [⟨true, ["a#?.jar".toList]⟩, ⟨false, [['t'], "a#?.jar".toList]⟩] := by
    cbv
  unfold FileSystem.Admits
  rw [seen]
  decide

theorem read_inside : plainArchive.read archive ['x'] = .ok [] := by
  apply eq_ok_of_toOption
  decide

end SignedNames

open scoped MaskedPath.Standard in
theorem located_reads_back_signs :
    let chained := (Resolver.chain SignedNames.levels).answers SignedNames.files .empty
    SignedNames.files.IsTree ∧
      chained.enumerate "/x".toList = .ok [SignedNames.loose, SignedNames.inside] ∧
      Location.read SignedNames.files SignedNames.loose = .ok [1, 2] ∧
      Location.read SignedNames.files SignedNames.inside = .ok [] := by
  intro chained
  have listed := SignedNames.enumerate_chain
  refine ⟨SignedNames.isTree, listed, ?_, ?_⟩
  · have given : chained.LeadsTo "/x".toList SignedNames.loose := .inr ⟨_, listed, by simp⟩
    obtain ⟨-, back⟩ := located_reads_back SignedNames.isTree .start given
    obtain ⟨-, q, resolved, read⟩ := back _ _ _ _ SignedNames.offers_loose
    obtain rfl := Except.ok.inj (resolved.symm.trans SignedNames.resolve_loose)
    obtain ⟨-, admitted, -⟩ := read SignedNames.admits_loose.sees
    exact (admitted (by decide)).2 (by decide) (by decide)
  · have given : chained.LeadsTo "/x".toList SignedNames.inside := .inr ⟨_, listed, by simp⟩
    obtain ⟨-, back⟩ := located_reads_back SignedNames.isTree .start given
    obtain ⟨-, q, resolved, read⟩ := back _ _ _ _ SignedNames.offers_inside
    obtain rfl := Except.ok.inj (resolved.symm.trans SignedNames.resolve_inside)
    obtain ⟨-, admitted, -⟩ := read SignedNames.admits_inside.sees
    rw [(admitted (by decide)).2 (by decide) (by decide)]
    exact SignedNames.read_inside

/-! ## A link too deep -/

namespace Unseen

open FileSystem Deep

def files : FileSystem where
  nodes := [(List.replicate 16 name ++ [['k']], .link ['.']), ([['f']], .file [1]),
    ([name, ['f']], .file [2]), ([['s']], .link (joinWith ['/'] (List.replicate 8 name)))] ++
      directories 16
  home := []

def up : Text := ['.', '.']

def names : List Text := ['s'] :: (List.replicate 8 name ++ ['k'] :: List.replicate 16 up)

def pathTo (rest : List Text) : Path := ⟨.relative, (names ++ rest).filterMap Segment.ofText?⟩

def entry : Path := pathTo []

def file : Path := pathTo [['f']]

theorem join_entry : entry.join ['f'] = file := by
  have more : Path.segmentsOf ['f'] = [['f']].filterMap Segment.ofText? := rfl
  change Path.mk .relative ((names ++ []).filterMap Segment.ofText? ++ Path.segmentsOf ['f']) = _
  rw [more, ← List.filterMap_append, List.append_nil]
  rfl

/-- Of the paths that are handed to the system only the one to look for the link by is too long. -/
theorem byteLengths :
    byteLength (joinWith ['/'] (names ++ [])) < pathMax ∧
      byteLength (joinWith ['/'] (names ++ [['f']])) < pathMax ∧
      byteLength ('/' :: joinWith ['/'] [name, ['f']]) < pathMax ∧
      pathMax ≤ byteLength (Spot.text (Spot.child ⟨true, List.replicate 16 name⟩ ['k'])) := by
  decide +kernel

def IsKept (other : Text) : Prop :=
  (other ≠ [] ∧ other ≠ ['.'] ∧ '/' ∉ other) ∧ '\x00' ∉ other

instance (other : Text) : Decidable (IsKept other) := by
  unfold IsKept; infer_instance

theorem plain_names : ∀ other ∈ names, IsKept other := by
  have plain_name : IsKept name :=
    ⟨⟨isName_name.1.1, isName_name.1.2.1, isName_name.2.1⟩, isName_name.2.2⟩
  intro other member
  simp only [names, List.mem_cons, List.mem_append, List.mem_replicate] at member
  rcases member with rfl | ⟨-, rfl⟩ | rfl | ⟨-, rfl⟩
  · decide
  · exact plain_name
  · decide
  · decide

theorem down : ∀ k ≤ 16, files.node? (List.replicate k name) = some .directory := by
  intro k le
  refine node?_directories ?_ le
  intro entry member
  simp only [List.mem_cons, List.not_mem_nil, or_false] at member
  rcases member with rfl | rfl | rfl | rfl
  · exact replicate_ne (List.mem_append_right _ List.mem_cons_self) (by decide)
  · exact replicate_ne List.mem_cons_self (by decide)
  · exact replicate_ne (List.mem_cons_of_mem _ List.mem_cons_self) (by decide)
  · exact replicate_ne List.mem_cons_self (by decide)

theorem node?_k : files.node? (List.replicate 16 name ++ [['k']]) = some (.link ['.']) := by
  unfold node?
  rw [if_neg (List.concat_ne_nil _ _)]
  exact List.lookup_cons_self

theorem node?_f : files.node? [['f']] = some (.file [1]) := rfl

theorem node?_name_f : files.node? [name, ['f']] = some (.file [2]) := by
  decide +kernel

theorem node?_s : files.node? [['s']] = some (.link (joinWith ['/'] (List.replicate 8 name))) :=
  rfl

theorem isTree : files.IsTree := by
  apply isTree_of_nodes
  · intro entry member
    rcases List.mem_append.mp member with front | deeper
    · simp only [List.mem_cons, List.not_mem_nil, or_false] at front
      rcases front with rfl | rfl | rfl | rfl
      · constructor
        · intro other inside
          rcases List.mem_append.mp inside with above | last
          · exact isName_replicate other above
          · rw [List.mem_singleton.mp last]
            decide
        · rw [List.dropLast_concat]
          exact down 16 (Nat.le_refl 16)
      · exact ⟨by decide, rfl⟩
      · refine ⟨fun other inside => ?_, down 1 (by decide)⟩
        rcases List.mem_pair.mp inside with rfl | rfl
        · exact isName_name
        · decide
      · exact ⟨by decide, rfl⟩
    · obtain ⟨k, less, rfl⟩ := mem_directories deeper
      constructor
      · exact isName_replicate
      · rw [List.dropLast_replicate]
        exact down _ (by omega)
  · rfl

/-! ### The walk -/

theorem reaches_up {rest : List Text} {n : Nat} {there : Place} {node : Option Node} (k : Nat)
    (later : Reaches files [] rest n there node) :
    Reaches files (List.replicate k name) (List.replicate k up ++ rest) n there node := by
  induction k with
  | zero => exact later
  | succ k ih =>
      refine .up List.not_mem_nil ?_
      rw [List.dropLast_replicate]
      exact ih

theorem reaches_back {rest : List Text} {there : Place} {node : Option Node}
    (later : Reaches files [] rest 0 there node) :
    Reaches files [] (names ++ rest) 2 there node := by
  have link : Reaches files (List.replicate 16 name) ([['k']] ++ (List.replicate 16 up ++ rest)) 1
      there node :=
    .follow (show IsName ['k'] by decide).1 List.not_mem_nil node?_k
      (.skip (.inr rfl) (fun _ => List.not_mem_nil) (reaches_up 16 later))
  have down := isTree.reaches_place (down 16 (Nat.le_refl 16)) (by simp) fun _ _ => List.not_mem_nil
  have deep := down.append rfl link
  refine .follow (show IsName ['s'] by decide).1 List.not_mem_nil node?_s ?_
  have start : startOf [] (joinWith ['/'] (List.replicate 8 name)) = [] := by
    unfold startOf
    split_ifs <;> rfl
  rw [start, namesOf_target]
  exact deep

section

variable {rest : List Text}
  (plain : ∀ other ∈ rest, IsKept other)

include plain

theorem plain_append : ∀ other ∈ names ++ rest, IsKept other := fun other member =>
  (List.mem_append.mp member).elim (plain_names other) (plain other)

theorem render_body :
    (pathTo rest).render = Path.body ((names ++ rest).filterMap Segment.ofText?) := by
  apply Path.render_eq
  intro _ nothing
  have text := map_text_segments fun other member => (plain_append plain other member).1
  have segments : (names ++ rest).filterMap Segment.ofText? = [] := nothing
  rw [segments] at text
  cases text

theorem render_pathTo : (pathTo rest).render = joinWith ['/'] (names ++ rest) := by
  rw [render_body plain]
  unfold Path.body
  rw [map_text_segments fun other member => (plain_append plain other member).1]

theorem noNul_pathTo : '\x00' ∉ (pathTo rest).render := by
  rw [render_pathTo plain]
  intro member
  rcases mem_joinWith member with slash | ⟨other, inside, nul⟩
  · cases slash
  · exact (plain_append plain other inside).2 nul

theorem namesOf_pathTo : namesOf (pathTo rest).render = names ++ rest := by
  rw [render_pathTo plain]
  exact namesOf_joinWith (List.cons_ne_nil _ _) fun other member =>
    (plain_append plain other member).1.2.2

theorem walkText_pathTo {there : Place} {node : Node}
    (short : byteLength (joinWith ['/'] (names ++ rest)) < pathMax)
    (later : Reaches files [] rest 0 there (some node)) :
    files.walkText (pathTo rest).render = .ok (there, some node) := by
  have nonempty : (pathTo rest).render ≠ [] := by
    intro empty
    have split := namesOf_pathTo plain
    rw [empty] at split
    cases split
  have start : startOf files.home (pathTo rest).render = [] := by
    unfold startOf
    split_ifs <;> rfl
  rw [← render_pathTo plain] at short
  unfold walkText
  rw [if_neg nonempty, if_neg (Nat.not_le.mpr short), start, namesOf_pathTo plain,
    (reaches_back later).walk_eq (by decide)]

end

theorem isDirectory_entry : files.isDirectory entry = .ok true := by
  have plain : ∀ other ∈ ([] : List Text), IsKept other := by simp
  unfold isDirectory holds status entry
  dsimp only
  rw [if_neg (noNul_pathTo plain), walkText_pathTo plain byteLengths.1 (.done [])]
  rfl

theorem plain_file : ∀ other ∈ [['f']], IsKept other := by
  intro other member
  rw [List.mem_singleton.mp member]
  decide

theorem leadsToFile_file : files.LeadsToFile file [['f']] [1] := by
  refine ⟨noNul_pathTo plain_file, walkText_pathTo plain_file byteLengths.2.1 ?_⟩
  exact .file (show IsName ['f'] by decide).1 List.not_mem_nil node?_f

/-! ### The resolution -/

theorem linkAt?_k : files.linkAt? (Spot.child ⟨true, List.replicate 16 name⟩ ['k']) = none := by
  unfold linkAt?
  rw [if_pos (.inl byteLengths.2.2.2)]

theorem parent_child (s : Spot) {other : Text} (entry : IsEntry other) :
    (s.child other).parent = s := by
  unfold Spot.parent Spot.child
  simp [entry.2.2.1]

theorem resolveNames_ups {depth : Nat} {active : List Spot} {rest : List Text} (k m : Nat) :
    files.resolveNames depth active ⟨true, List.replicate (k + m) name⟩
        (List.replicate m up ++ rest) =
      files.resolveNames depth active ⟨true, List.replicate k name⟩ rest := by
  induction m with
  | zero => rfl
  | succ m ih =>
      have child : Spot.child ⟨true, List.replicate (k + m) name⟩ name =
          ⟨true, List.replicate (k + (m + 1)) name⟩ := by
        unfold Spot.child
        rw [← List.replicate_succ', Nat.add_assoc]
      rw [List.replicate_succ, List.cons_append, ← child]
      change files.resolveNames depth active _ (['.', '.'] :: _) = _
      rw [resolveNames_up, parent_child _ isName_name.1]
      exact ih

theorem resolveNames_file : files.resolveNames files.resolutionDepth [] ⟨true, []⟩
    (names ++ [['f']]) = .done ⟨true, [name, ['f']]⟩ := by
  have isName_k : IsName ['k'] := by decide
  have isName_f : IsName ['f'] := by decide
  have deep : files.resolutionDepth = 41 + 1 := by decide
  have link : files.linkAt? (Spot.child ⟨true, []⟩ ['s']) =
      some (joinWith ['/'] (List.replicate 8 name)) :=
    linkAt?_of_node (not_refuses rfl (by decide)) node?_s
  have plain := linkAt?_child (placeOf_replicate rfl 1) isName_f.1 fun target => by
    rw [show List.replicate 1 name ++ [['f']] = [name, ['f']] from rfl, node?_name_f]
    simp
  have back : List.replicate 16 up = ['.', '.'] :: List.replicate 15 up := rfl
  unfold names
  rw [deep, List.cons_append, List.append_assoc, resolveNames_link (show IsName ['s'] by decide).1
      link (by simp) (resolveNames_target rfl down 41 _), resolveNames_down rfl down (by omega),
    List.cons_append, resolveNames_entry isName_k.1 linkAt?_k, back, List.cons_append,
    resolveNames_up, parent_child _ isName_k.1, resolveNames_ups 1 15,
    resolveNames_entry isName_f.1 plain, resolveNames]
  rfl

def resolved : Path := .ofNames [name, ['f']]

theorem read_resolved : files.read resolved = .ok [2] := by
  have short : byteLength resolved.render < pathMax := by
    unfold resolved
    rw [render_ofNames (isTree.names node?_name_f)]
    exact byteLengths.2.2.1
  unfold resolved at short ⊢
  rw [isTree.read_ofNames node?_name_f, if_neg (Nat.not_le.mpr short), if_neg (by simp [files])]

theorem resolve_file : files.resolve file = .ok resolved := by
  have start : Spot.start ⟨true, []⟩ file.render = ⟨true, []⟩ := by
    unfold Spot.start
    rw [if_neg]
    unfold file
    rw [render_body plain_file]
    exact Path.head?_body _
  have there : files.placeOf ⟨true, [name, ['f']]⟩ = [name, ['f']] :=
    normalNames_of_entries fun other member =>
      (isTree.names node?_name_f other member).1
  obtain ⟨place, leads, -⟩ := exists_leadsToFile_of_read read_resolved
  unfold resolve
  dsimp only
  rw [start]
  unfold file
  rw [if_neg (noNul_pathTo plain_file), namesOf_pathTo plain_file, resolveNames_file]
  dsimp only [Resolution.path]
  rw [there, show Path.ofNames [name, ['f']] = resolved from rfl, status, leads.walked]

def location : Location := Location.ofResolved resolved

theorem offers_file [Runtime] :
    Search.Offers files ['f'] entry location file [['f']] (.ok [1]) := by
  have made : Location.ofFile files (entry.join ['f']) = .ok location := by
    rw [join_entry]
    exact Location.ofFile_eq_ok.mpr ⟨resolved, resolve_file, rfl⟩
  have leads : files.LeadsToFile (entry.join ['f']) [['f']] [1] := by
    rw [join_entry]
    exact leadsToFile_file
  rw [← join_entry]
  exact .file isDirectory_entry leads made

theorem read_location [Runtime] : Location.read files location = .ok [2] := by
  have absolute : resolved.anchor ≠ .relative := fun relative => by cases relative
  rw [location, Location.read_ofResolved absolute, read_resolved]
  rfl

end Unseen

/-! ## Files without permission -/

namespace Locked

def files : FileSystem where
  nodes := [([['t'], ['x']], .file [1]), ([['t']], .directory)]
  home := [['t']]
  closed := [[['t'], ['x']]]

def entry : Path := .parse ['.']

def location : Location := "file:///t/x".toList

theorem isTree : files.IsTree := by
  apply FileSystem.isTree_of_nodes
  · decide
  · rfl

theorem offers_file [Runtime] :
    Search.Offers files ['x'] entry location (entry.join ['x']) [['t'], ['x']] (.ok [1]) :=
  .file (by cbv) ⟨by decide, by cbv⟩ (by cbv)

theorem read_location [Runtime] : Location.read files location =
    .error (.path (.system .noPermission "/t/x".toList)) := by
  cbv

end Locked

namespace Packaged

open scoped MaskedPath.Standard

variable {archive resolved : Path} {there : Place}

theorem offers_package (leads : fs.LeadsToFile archive there bytes) (free : there ∉ fs.closed)
    (resolves : fs.resolve archive = .ok resolved) :
    Search.Offers fs package.name archive (location resolved) archive there (.ok []) := by
  have content : Packaged.archive.read archive package.name = .ok [] := by
    rw [Archive.read_of_member member?_package, extract_package]
    rfl
  rw [← content]
  refine .member leads free parse_bytes ?_ (ofMember_eq resolves)
  rw [member?_package]
  rfl

theorem read_location {e : PathError} (absolute : resolved.anchor ≠ .relative)
    (unread : fs.read resolved = .error e) :
    Location.read fs (location resolved) = .error (.path e) := by
  rw [location, Location.read_ofMemberAt absolute]
  unfold FileSystem.readArchive
  rw [unread]
  rfl

end Packaged

/-- Whether a search through an entry gives a location for a name, and reading it gives `read`, where
the content of what the entry offers there is `direct`. -/
def NotReadBack [Runtime] (fs : FileSystem) (entry : Path) (name : Text) (location : Location)
    (direct read : Except Failure Bytes) : Prop :=
  fs.IsTree ∧ ((Resolver.chain [[entry]]).answers fs .empty).locate name = .ok (some location) ∧
    (∃ p there, Search.Offers fs name entry location p there direct) ∧
    Location.read fs location = read ∧ read ≠ direct

theorem Search.Offers.notReadBack [Runtime] {name : Text} {entry p : Path} {location : Location}
    {there : Place} {direct read : Except Failure Bytes}
    (offers : Search.Offers fs name entry location p there direct) (tree : fs.IsTree)
    (plain : Search.plainName name = name) (named : name ≠ [])
    (given : Location.read fs location = read) (differs : read ≠ direct) :
    NotReadBack fs entry name location direct read := by
  refine ⟨tree, ?_, ⟨p, there, offers⟩, given, differs⟩
  have single : (Resolver.chain [[entry]]).answers fs .empty = Replies.nothing.searched fs [entry] :=
    Resolver.answers_eq_replies Store.faithful_empty (Resolver.chain [[entry]])
  rw [single, Replies.locate_of_open rfl (by rwa [plain]), List.findSomeM?_cons, plain,
    Search.located_of_offers offers]
  rfl

open scoped MaskedPath.Standard in
/-- A location that a chain gives cannot be read if the file may not be read, or if the archive's
resolved path is too long or leads through a directory that may not be searched, although the archive
can; and if a link is not seen for one, since the path to look for it by is too long, the location is
that of another file. -/
theorem refused_paths_not_read_back :
    NotReadBack Locked.files Locked.entry ['x'] Locked.location (.ok [1])
        (.error (.path (.system .noPermission "/t/x".toList))) ∧
      NotReadBack Deep.files Deep.archive Packaged.package.name (Packaged.location Deep.resolved)
        (.ok []) (.error (.path (.system .nameTooLong Deep.resolved.render))) ∧
      NotReadBack (Shut.files Packaged.bytes) OneArchive.entry Packaged.package.name
        (Packaged.location Shut.resolved) (.ok [])
        (.error (.path (.system .noPermission Shut.resolved.render))) ∧
      NotReadBack Unseen.files Unseen.entry ['f'] Unseen.location (.ok [1]) (.ok [2]) := by
  have plain : Search.plainName Packaged.package.name = Packaged.package.name := by decide
  refine ⟨?_, ?_, ?_, ?_⟩
  · exact Locked.offers_file.notReadBack Locked.isTree (by decide) (by decide) Locked.read_location
      (by simp)
  · have offers := Packaged.offers_package (Deep.leadsToFile_archive Deep.isDeep_files)
      (Deep.isDeep_files.open_ _) (Deep.resolve_archive Deep.isDeep_files)
    exact offers.notReadBack Deep.isTree plain (by decide)
      (Packaged.read_location (by decide) (Deep.read_resolved _)) (by simp)
  · obtain ⟨there, leads, free⟩ :=
      FileSystem.exists_leadsToFile_of_read (Shut.read_entry Packaged.bytes)
    have offers := Packaged.offers_package leads free (Shut.resolve_entry _)
    exact offers.notReadBack (Shut.isTree _) plain (by decide)
      (Packaged.read_location (by decide) (Shut.read_resolved _)) (by simp)
  · exact Unseen.offers_file.notReadBack Unseen.isTree (by decide) (by decide) Unseen.read_location
      (by simp)

end MaskedPath
