import MaskedPath.Proofs.Session
import MaskedPath.Standard.Runtime

namespace MaskedPath

open MaskedPath.Action

/-- A new masking resolver answers every session as the cache-free replies do, and so alike under
any two eviction policies. -/
theorem session_answers_eq_replies [Runtime] {fs : FileSystem} {s : Store} (reached : Reachable fs s)
    {parent : Resolver} (below : parent.Below s.maskings.length) (names : List Text)
    (attributor : Attributor) (policy : Policy) (ops : List Masking.Operation) :
    ((parent.mask names attributor policy).run s).1 = .ok (.masking s.maskings.length parent) ∧
      (Masking.performAll fs s.maskings.length parent ops
          ((parent.mask names attributor policy).run s).2).1 =
        Masking.replyAll fs (parent.replies fs (s.judge fs)) ops
          ⟨.ofNames names, attributor.library fs⟩ ∧
      ∀ policy' : Policy,
        (Masking.performAll fs s.maskings.length parent ops
            ((parent.mask names attributor policy').run s).2).1 =
          (Masking.performAll fs s.maskings.length parent ops
            ((parent.mask names attributor policy).run s).2).1 := by
  have answers (policy : Policy) :
      (Masking.performAll fs s.maskings.length parent ops
          ((parent.mask names attributor policy).run s).2).1 =
        Masking.replyAll fs (parent.replies fs (s.judge fs)) ops
          ⟨.ofNames names, attributor.library fs⟩ := by
    obtain ⟨-, gained⟩ := Resolver.mask_gains fs parent names attributor policy s
    have known : s.maskings.length <
        ((parent.mask names attributor policy).run s).2.maskings.length := by
      rw [gained.count_eq]
      exact Nat.lt_succ_self _
    rw [(Masking.performAll_replies below known (gained.faithful reached.faithful) ops).1,
      gained.judge_new, Resolver.replies_congr below gained.judge_below]
  refine ⟨(Resolver.mask_gains fs parent names attributor policy s).1, answers policy, ?_⟩
  intro policy'
  rw [answers policy', answers policy]

open scoped MaskedPath.Standard in
theorem session_answers_eq_replies_alternating :
    let inA : Location := "jar:a!/x".toList
    let inB : Location := "jar:b!/x".toList
    let inC : Location := "jar:c!/x".toList
    let parent : Resolver := .fixed 0
      ⟨fun name => .ok (if name = ['x'] then some inA else none),
        fun name => .ok (if name = ['x'] then [inA, inB, inA, inB] else [inB, inC]),
        fun _ _ => .ok none⟩
    let library : Library := ⟨none, wide ['l']⟩
    let attributor : Attributor := .given fun key =>
      if key = ['a'] then .ok (some library)
      else if key = ['b'] then .ok (some .void)
      else .error (.reported ['!'])
    let policy : Policy := .keepRecent 1 (by decide)
    let ops : List Masking.Operation := [.enumerate ['x'], .addLibraries [some library],
      .enumerate ['x'], .evict ['b'], .locate ['x'], .enumerate ['y'], .locationOrigin inB]
    Reachable ⟨[], [], []⟩ .empty ∧ parent.Below 0 ∧
      (Masking.performAll ⟨[], [], []⟩ 0 parent ops
          ((parent.mask [] attributor policy).run .empty).2).1 =
        [.ok (.locations [inA, inB, inA, inB]), .ok (.added 1), .ok (.locations [inB, inB]),
          .ok .done, .ok (.location none), .error (.reported ['!']), .ok (.origin .notMasked)] := by
  intro inA inB inC parent library attributor policy ops
  refine ⟨.start, trivial, ?_⟩
  have answers := (session_answers_eq_replies (show Reachable ⟨[], [], []⟩ .empty from .start)
    (show parent.Below 0 from trivial) [] attributor policy ops).2.1
  refine answers.trans ?_
  rfl

end MaskedPath
