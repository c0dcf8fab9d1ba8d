import MaskedPath.Proofs.Attribution
import MaskedPath.Proofs.Locations
import MaskedPath.Proofs.Resolution
import MaskedPath.Proofs.Session
import MaskedPath.Proofs.Shown

/-!
# Library masks never leak

What a masking resolver over a chain of searches shows of an archive is not from a masked library,
where the archive's library is the one that its own path is attributed to. A resolver judges by the
archive's URL, so that this hangs on the URL of an archive leading back to the archive's file. It does
unless the system refuses a path, for its length or for a directory that may not be searched, and an
archive that cannot be read has no library to mask.
-/

namespace MaskedPath

open MaskedPath.Action FileSystem

/-! ## What is shown -/

def Resolver.IsChain : Resolver → Prop
  | .nowhere => True
  | .search _ parent => parent.IsChain
  | _ => False

def Resolver.Shows [Runtime] (fs : FileSystem) (r : Resolver) (s : Store) (location : Location) : Prop :=
  (∃ name, ((r.locate fs name).run s).1 = .ok (some location)) ∨
    (∃ name locations, ((r.enumerate fs name).run s).1 = .ok locations ∧ location ∈ locations) ∨
    ∃ name finalize m, ((r.resolve fs name finalize).run s).1 = .ok (some m) ∧ m.location = location

variable {fs : FileSystem} {s : Store} {id : Nat} {parent : Resolver}

section

variable [Runtime]

end

/-! ## A mask on another library -/

theorem OneArchive.isTree (bytes : Bytes) : (OneArchive.files bytes).IsTree := by
  apply isTree_of_nodes
  · intro entry member
    have cases : entry = ([['t'], "lib.jar".toList], .file bytes) ∨ entry = ([['t']], .directory) := by
      simpa [OneArchive.files] using member
    have named : ∀ name ∈ [['t'], "lib.jar".toList], IsName name := by decide
    rcases cases with rfl | rfl
    · exact ⟨named, by cbv⟩
    · exact ⟨by decide, by cbv⟩
  · cbv

namespace Unmasked

open scoped MaskedPath.Standard

def other : Library := ⟨some (wide ['h']), wide ['a']⟩

def files : FileSystem := OneArchive.files Packaged.bytes

def store : Store :=
  (((Masking.Operation.addLibraries [some other]).perform files 0 OneArchive.search).run
    ((OneArchive.search.mask [] (.identifier {}) .keepAll).run .empty).2).2

theorem reachable : Reachable files store :=
  .perform (.mask .start OneArchive.search [] (.identifier {}) .keepAll) 0 (by decide)
    OneArchive.search (.addLibraries [some other])

def location : Location := Location.ofMemberAt OneArchive.key Packaged.package.name

theorem shown : (Resolver.masking 0 OneArchive.search).Shows files store location := by
  have located := OneArchive.locate_search Packaged.parse_bytes
    (show Search.plainName Packaged.package.name = _ by decide) (by decide) (store.judge files)
  rw [Packaged.member?_package] at located
  have judged : (store.judge files 0).origin location = .ok .notMasked :=
    OneArchive.origin_eq (Packaged.libraryAt_eq (OneArchive.read_entry Packaged.bytes)) _ _
  refine .inl ⟨Packaged.package.name, ?_⟩
  rw [Resolver.locate_run reachable.faithful]
  exact Replies.masked_locate_of_passes rfl located ⟨.notMasked, judged, by simp⟩

end Unmasked

namespace Packaged

open scoped MaskedPath.Standard

def search (archive : Path) : Resolver := .search [archive] .nowhere

def store (fs : FileSystem) (archive : Path) : Store :=
  (((Masking.Operation.addLibraries [some library]).perform fs 0 (search archive)).run
    (((search archive).mask [] (.identifier {}) .keepAll).run .empty).2).2

theorem reachable (fs : FileSystem) (archive : Path) : Reachable fs (store fs archive) :=
  .perform (.mask .start (search archive) [] (.identifier {}) .keepAll) 0 (Nat.lt_succ_self 0)
    (search archive) (.addLibraries [some library])

def location (resolved : Path) : Location :=
  Location.ofMemberAt (Location.ofResolved resolved) package.name

variable {archive resolved : Path}

theorem ofMember_eq (resolves : fs.resolve archive = .ok resolved) :
    Location.ofMember fs archive package.name = .ok (location resolved) := by
  unfold Location.ofMember Location.ofFile
  rw [resolves]
  rfl

theorem locate_search (read : fs.read archive = .ok bytes) (resolves : fs.resolve archive = .ok resolved)
    (judges : Nat → Judge) :
    ((search archive).replies fs judges).locate package.name = .ok (some (location resolved)) := by
  have held : Search.holdsMember fs archive package.name = .ok true := by
    unfold Search.holdsMember
    rw [FileSystem.readArchive_of_read read parse_bytes]
    dsimp only
    rw [member?_package]
    rfl
  have located : Search.located fs package.name archive = .ok (some (location resolved)) := by
    unfold Search.located
    rw [isDirectory_of_read read, isFile_of_read read, held, ofMember_eq resolves]
    rfl
  change Replies.searchedLocation _ _ _ _ = _
  unfold Replies.searchedLocation
  rw [show Search.plainName package.name = package.name by decide, if_neg (by decide),
    List.findSomeM?_cons, located]
  rfl

end Packaged

/-! ## An archive below a directory that may not be searched -/

namespace Shut

def files (bytes : Bytes) : FileSystem where
  nodes := [([['s'], ['t'], "lib.jar".toList], .file bytes), ([['s'], ['t']], .directory),
    ([['s']], .directory)]
  home := [['s'], ['t']]
  closed := [[['s']]]

def resolved : Path := .parse "/s/t/lib.jar".toList

variable (bytes : Bytes)

theorem isTree : (files bytes).IsTree := by
  apply isTree_of_nodes
  · have named : ∀ name ∈ [['s'], ['t'], "lib.jar".toList], IsName name := by decide
    simp only [files, List.forall_mem_cons, List.not_mem_nil, false_implies, implies_true, and_true]
    exact ⟨⟨by simpa using named, by cbv⟩, ⟨by decide, by cbv⟩, by decide, by cbv⟩
  · cbv

theorem read_entry : (files bytes).read OneArchive.entry = .ok bytes := by
  cbv

theorem resolve_entry : (files bytes).resolve OneArchive.entry = .ok resolved := by
  cbv

theorem read_resolved :
    (files bytes).read resolved = .error (.system .noPermission resolved.render) := by
  cbv

end Shut

/-! ## An archive too deep -/

namespace Deep

def name : Text := List.replicate 255 'a'

def directories : Nat → List (Place × Node)
  | 0 => []
  | k + 1 => (List.replicate (k + 1) name, .directory) :: directories k

def files : FileSystem where
  nodes := (List.replicate 16 name ++ ["lib.jar".toList], .file Packaged.bytes) ::
    ([['s']], .link (joinWith ['/'] (List.replicate 8 name))) :: directories 16
  home := []

theorem isName_name : IsName name := by decide +kernel

theorem isName_replicate {k : Nat} : ∀ other ∈ List.replicate k name, IsName other := by
  intro other member
  rw [List.eq_of_mem_replicate member]
  exact isName_name

theorem isName_lib : IsName "lib.jar".toList := by decide

theorem placeOf_replicate (home : fs.home = []) (k : Nat) :
    fs.placeOf ⟨true, List.replicate k name⟩ = List.replicate k name := by
  unfold placeOf
  rw [if_pos rfl, home, List.nil_append]
  exact normalNames_of_entries fun other member => (isName_replicate other member).1

theorem namesOf_target :
    namesOf (joinWith ['/'] (List.replicate 8 name)) = List.replicate 8 name := by
  apply namesOf_joinWith
  · simp
  · exact fun other member => (isName_replicate other member).2.1

theorem lookup_directories {k n : Nat} (less : k < n) :
    (directories n).lookup (List.replicate (k + 1) name) = some .directory := by
  induction n with
  | zero => exact absurd less (Nat.not_lt_zero _)
  | succ n ih =>
      rw [directories, List.lookup_cons]
      by_cases same : k = n
      · subst same
        simp
      · have different : List.replicate (k + 1) name ≠ List.replicate (n + 1) name := by
          intro equal
          have lengths := congrArg List.length equal
          simp only [List.length_replicate] at lengths
          omega
        rw [beq_eq_false_iff_ne.mpr different]
        exact ih (by omega)

theorem replicate_ne {place : Place} {other : Text} (member : other ∈ place)
    (short : other.length < 255) (k : Nat) : List.replicate k name ≠ place := by
  rintro rfl
  have length : name.length = 255 := List.length_replicate
  rw [List.eq_of_mem_replicate member, length] at short
  exact Nat.lt_irrefl _ short

theorem node?_directories {front : List (Place × Node)} {home : Place}
    (others : ∀ entry ∈ front, ∀ k, List.replicate k name ≠ entry.1) {k : Nat} (le : k ≤ 16) :
    FileSystem.node? ⟨front ++ directories 16, home, []⟩ (List.replicate k name) =
      some .directory := by
  cases k with
  | zero => rfl
  | succ k =>
      have absent : front.lookup (List.replicate (k + 1) name) = none := by
        rw [List.lookup_eq_none_iff]
        intro entry member
        exact bne_iff_ne.mpr (others entry member (k + 1))
      unfold node?
      rw [if_neg (by simp), List.lookup_append, absent, lookup_directories le]
      rfl

theorem node?_replicate {k : Nat} (le : k ≤ 16) :
    files.node? (List.replicate k name) = some .directory := by
  have others : ∀ entry ∈ [(List.replicate 16 name ++ ["lib.jar".toList], Node.file Packaged.bytes),
      ([['s']], .link (joinWith ['/'] (List.replicate 8 name)))],
      ∀ k, List.replicate k name ≠ entry.1 := by
    intro entry member
    rcases List.mem_pair.mp member with rfl | rfl
    · exact replicate_ne (List.mem_append_right _ List.mem_cons_self) (by decide)
    · exact replicate_ne List.mem_cons_self (by decide)
  exact node?_directories others le

theorem node?_file : files.node? (List.replicate 16 name ++ ["lib.jar".toList]) =
    some (.file Packaged.bytes) := by
  unfold node?
  rw [if_neg (List.concat_ne_nil _ _)]
  change List.lookup _ (_ :: _) = _
  rw [List.lookup_cons, beq_self_eq_true]

theorem node?_link : files.node? [['s']] =
    some (.link (joinWith ['/'] (List.replicate 8 name))) := by
  have notFile : [['s']] ≠ List.replicate 16 name ++ ["lib.jar".toList] := by
    intro equal
    have lengths := congrArg List.length equal
    simp at lengths
  unfold node?
  rw [if_neg (by simp)]
  change List.lookup _ (_ :: _ :: _) = _
  rw [List.lookup_cons, beq_eq_false_iff_ne.mpr notFile, List.lookup_cons, beq_self_eq_true]

theorem mem_directories {entry : Place × Node} {n : Nat} (member : entry ∈ directories n) :
    ∃ k < n, entry = (List.replicate (k + 1) name, .directory) := by
  induction n with
  | zero => cases member
  | succ n ih =>
      rcases List.mem_cons.mp member with rfl | deeper
      · exact ⟨n, Nat.lt_succ_self n, rfl⟩
      · obtain ⟨k, less, rfl⟩ := ih deeper
        exact ⟨k, Nat.lt_succ_of_lt less, rfl⟩

theorem isTree : files.IsTree := by
  apply isTree_of_nodes
  · intro entry member
    rcases List.mem_cons.mp member with rfl | member
    · constructor
      · intro other inside
        rcases List.mem_append.mp inside with above | last
        · exact isName_replicate other above
        · rw [List.mem_singleton.mp last]
          exact isName_lib
      · rw [List.dropLast_concat]
        exact node?_replicate (Nat.le_refl 16)
    · rcases List.mem_cons.mp member with rfl | member
      · exact ⟨by decide, rfl⟩
      · obtain ⟨k, less, rfl⟩ := mem_directories member
        constructor
        · exact isName_replicate
        · rw [List.dropLast_replicate]
          exact node?_replicate (by omega)
  · rfl

def names : List Text := ['s'] :: (List.replicate 8 name ++ ["lib.jar".toList])

/-- Whether the archive is deep down in a file system, and the link half the way. -/
structure IsDeep (fs : FileSystem) : Prop where
  tree : fs.IsTree
  home : fs.home = []
  free : fs.closed = []
  down : ∀ k ≤ 16, fs.node? (List.replicate k name) = some .directory
  link : fs.node? [['s']] = some (.link (joinWith ['/'] (List.replicate 8 name)))
  file : fs.node? (List.replicate 16 name ++ ["lib.jar".toList]) = some (.file Packaged.bytes)

theorem isDeep_files : IsDeep files :=
  ⟨isTree, rfl, rfl, fun _ => node?_replicate, node?_link, node?_file⟩

theorem IsDeep.open_ (deep : IsDeep fs) (place : Place) : place ∉ fs.closed := by
  rw [deep.free]
  exact List.not_mem_nil

theorem reaches_archive (deep : IsDeep fs) : Reaches fs [] names 1
    (List.replicate 16 name ++ ["lib.jar".toList]) (some (.file Packaged.bytes)) := by
  refine .follow (show IsName ['s'] by decide).1 (deep.open_ _) deep.link ?_
  have start : startOf [] (joinWith ['/'] (List.replicate 8 name)) = [] := by
    unfold startOf
    split_ifs <;> rfl
  rw [start, namesOf_target, ← List.append_assoc]
  exact deep.tree.reaches_place deep.file (by simp) fun k _ => deep.open_ _

def archive : Path := ⟨.relative, (Path.ofNames names).segments⟩

def place : Place := List.replicate 16 name ++ ["lib.jar".toList]

theorem isName_names : ∀ other ∈ names, IsName other := by
  decide +kernel

theorem render_archive : archive.render = joinWith ['/'] names := by
  have text := map_text_ofNames isName_names
  rw [Path.render_eq archive fun _ nothing => ?_]
  · change [] ++ Path.body (Path.ofNames names).segments = _
    unfold Path.body
    rw [text, List.nil_append]
  · have segments : (Path.ofNames names).segments = [] := nothing
    rw [segments] at text
    cases text

theorem namesOf_archive : namesOf archive.render = names := by
  rw [render_archive]
  exact namesOf_joinWith (List.cons_ne_nil _ _) fun other member => (isName_names other member).2.1

theorem noNul_archive : '\x00' ∉ archive.render := by
  rw [render_archive]
  decide +kernel

theorem leadsToFile_archive (deep : IsDeep fs) : fs.LeadsToFile archive place Packaged.bytes := by
  refine ⟨noNul_archive, ?_⟩
  have start : startOf fs.home (joinWith ['/'] names) = [] := by
    rw [deep.home]
    unfold startOf
    split_ifs <;> rfl
  unfold walkText
  rw [namesOf_archive, render_archive, if_neg (by decide +kernel), if_neg (by decide +kernel), start]
  exact (reaches_archive deep).walk_eq (by decide)

theorem resolveNames_down (home : fs.home = [])
    (down : ∀ k ≤ 16, fs.node? (List.replicate k name) = some .directory) {depth : Nat}
    {active : List Spot} {k m : Nat} (le : k + m ≤ 16) (rest : List Text) :
    fs.resolveNames depth active ⟨true, List.replicate k name⟩ (List.replicate m name ++ rest) =
      fs.resolveNames depth active ⟨true, List.replicate (k + m) name⟩ rest := by
  induction m generalizing k with
  | zero => rfl
  | succ m ih =>
      have plain := linkAt?_child (placeOf_replicate home k) isName_name.1 fun target => by
        rw [← List.replicate_succ', down (k + 1) (by omega)]
        simp
      have child : Spot.child ⟨true, List.replicate k name⟩ name =
          ⟨true, List.replicate (k + 1) name⟩ := by
        unfold Spot.child
        rw [← List.replicate_succ']
      rw [List.replicate_succ, List.cons_append, resolveNames_entry isName_name.1 plain, child,
        ih (by omega), Nat.add_right_comm]
      rfl

theorem resolveNames_target (home : fs.home = [])
    (down : ∀ k ≤ 16, fs.node? (List.replicate k name) = some .directory) (depth : Nat)
    (active : List Spot) :
    fs.resolveNames depth active (Spot.start ⟨true, []⟩ (joinWith ['/'] (List.replicate 8 name)))
      (namesOf (joinWith ['/'] (List.replicate 8 name))) = .done ⟨true, List.replicate 8 name⟩ := by
  have start : Spot.start ⟨true, []⟩ (joinWith ['/'] (List.replicate 8 name)) =
      ⟨true, List.replicate 0 name⟩ := by
    decide
  have walked : fs.resolveNames depth active ⟨true, List.replicate 0 name⟩
      (List.replicate 8 name ++ []) =
        fs.resolveNames depth active ⟨true, List.replicate (0 + 8) name⟩ [] :=
    resolveNames_down home down (by omega) []
  rw [List.append_nil] at walked
  rw [start, namesOf_target, walked, resolveNames]

theorem resolveNames_archive (deep : IsDeep fs) :
    fs.resolveNames fs.resolutionDepth [] ⟨true, []⟩ names = .done ⟨true, place⟩ := by
  have at_link : fs.placeOf (Spot.child ⟨true, []⟩ ['s']) = [['s']] := by
    have start := placeOf_replicate deep.home 0
    rw [List.replicate_zero] at start
    rw [placeOf_entry _ (show IsName ['s'] by decide).1, start]
    rfl
  have link : fs.linkAt? (Spot.child ⟨true, []⟩ ['s']) =
      some (joinWith ['/'] (List.replicate 8 name)) :=
    linkAt?_of_node (not_refuses deep.free (by decide)) (by rw [at_link, deep.link])
  have plain := linkAt?_child (placeOf_replicate deep.home 16) isName_lib.1 fun target => by
    rw [deep.file]
    simp
  obtain ⟨depth, room⟩ : ∃ depth, fs.resolutionDepth = depth + 1 :=
    Nat.exists_eq_succ_of_ne_zero (Nat.ne_zero_of_lt (nodes_lt_resolutionDepth fs))
  unfold names
  rw [room, resolveNames_link (show IsName ['s'] by decide).1 link (by simp)
      (resolveNames_target deep.home deep.down depth _),
    resolveNames_down deep.home deep.down (by omega), resolveNames_entry isName_lib.1 plain,
    resolveNames]
  rfl

def resolved : Path := Path.ofNames place

theorem isName_place : ∀ other ∈ place, IsName other := isTree.names node?_file

theorem too_long : pathMax ≤ byteLength resolved.render := by
  unfold resolved
  rw [render_ofNames isName_place]
  decide +kernel

theorem walkText_resolved (fs : FileSystem) :
    fs.walkText resolved.render = .error .nameTooLong := by
  have nonempty : resolved.render ≠ [] := by
    unfold resolved
    rw [render_ofNames isName_place]
    exact List.cons_ne_nil _ _
  unfold walkText
  rw [if_neg nonempty, if_pos too_long]

theorem resolve_archive (deep : IsDeep fs) : fs.resolve archive = .ok resolved := by
  have start : Spot.start ⟨true, []⟩ archive.render = ⟨true, []⟩ := by
    rw [render_archive]
    decide
  have there : fs.placeOf ⟨true, place⟩ = place := by
    unfold placeOf
    rw [if_pos rfl, deep.home, List.nil_append]
    exact normalNames_of_entries fun other member => (isName_place other member).1
  unfold resolve
  dsimp only
  rw [if_neg noNul_archive, start, namesOf_archive, resolveNames_archive deep]
  dsimp only [Resolution.path]
  rw [there, show Path.ofNames place = resolved from rfl, status, walkText_resolved]

theorem read_resolved (fs : FileSystem) :
    fs.read resolved = .error (.system .nameTooLong resolved.render) := by
  have noNul : '\x00' ∉ resolved.render := nul_not_mem_ofNames isName_place
  unfold FileSystem.read
  dsimp only
  rw [if_neg noNul, walkText_resolved]

end Deep

/-! ## An archive without a library -/

namespace Bare

open scoped MaskedPath.Standard

def bytes : Bytes :=
  Packaged.bytesOf ("PK\x03\x04\x14\x00\x00\x00\x00\x00\x00\x00!\x00\x00\x00\x00\x00\x00\x00\x00\x00" ++
    "\x00\x00\x00\x00\x01\x00\x00\x00x") ++
  Packaged.bytesOf ("PK\x01\x02\x14\x00\x14\x00\x00\x00\x00\x00\x00\x00!\x00\x00\x00\x00\x00\x00\x00\x00" ++
    "\x00\x00\x00\x00\x00\x01\x00\x00\x00\x00\x00\x00\x00\x00\x00\x00\x00\x80\x01\x00\x00\x00\x00x") ++
  Packaged.bytesOf "PK\x05\x06\x00\x00\x00\x00\x01\x00\x01\x00/\x00\x00\x00\x1f\x00\x00\x00\x00\x00"

def member : Member where
  rawName := ['x']
  flags := 0
  method := 0
  checksum := 0
  packedSize := 0
  size := 0
  attributes := 0x1800000
  headerOffset := 0
  limit := 31

set_option maxRecDepth 4000 in
theorem parse_bytes : Archive.parse bytes = .ok ⟨bytes, [member]⟩ := by
  cbv

def files : FileSystem := OneArchive.files bytes

def mask : Library := ⟨some (wide ['g']), []⟩

def store : Store :=
  (((Masking.Operation.addLibraries [some mask]).perform files 0 OneArchive.search).run
    ((OneArchive.search.mask [] (.identifier {}) .keepAll).run .empty).2).2

theorem reachable : Reachable files store :=
  .perform (.mask .start OneArchive.search [] (.identifier {}) .keepAll) 0 (by decide)
    OneArchive.search (.addLibraries [some mask])

end Bare

end MaskedPath
