import WarpTweet.Analysis.Hosts
import WarpTweet.Model.Resolve

/-!
# Candidates of a dial host

The answers are filtered in one pass with three accumulators. What comes out are the first four
distinct permitted addresses of each family, by turns, and they are dialed in this order.
-/

set_option autoImplicit false

namespace WarpTweet

section

variable {α : Type} {a : α} {seen as bs : List α} {n : Nat}

/-- The elements that were not seen before, each where it stands first. -/
def firstSeen [DecidableEq α] (seen : List α) : List α → List α
  | [] => []
  | a :: as => if a ∈ seen then firstSeen seen as else a :: firstSeen (a :: seen) as

/-- The elements of two lists by turns, while both remain. -/
def alternate : List α → List α → List α
  | [], bs => bs
  | a :: as, bs => a :: alternate bs as
  termination_by as bs => as.length + bs.length

theorem mem_firstSeen [DecidableEq α] : a ∈ firstSeen seen as ↔ a ∈ as ∧ a ∉ seen := by
  induction as generalizing seen with
  | nil => simp [firstSeen]
  | cons b as ih =>
    unfold firstSeen
    split
    next hb => grind
    next hb => grind

theorem nodup_firstSeen [DecidableEq α] : (firstSeen seen as).Nodup := by
  induction as generalizing seen with
  | nil => exact List.nodup_nil
  | cons b as ih =>
    unfold firstSeen
    split
    next => exact ih
    next => exact List.nodup_cons.2 ⟨by simp [mem_firstSeen], ih⟩

theorem alternate_nil : alternate as [] = as := by
  cases as <;> simp [alternate]

theorem alternate_perm : (alternate as bs).Perm (as ++ bs) := by
  fun_induction alternate as bs with
  | case1 => exact .refl _
  | case2 a as bs ih => exact (ih.trans List.perm_append_comm).cons a

/-- What is not among the first has that many others before it. -/
theorem le_length_takeWhile [DecidableEq α] (hmem : a ∈ as) (hnot : a ∉ as.take n) :
    n ≤ (as.takeWhile (· ≠ a)).length := by
  induction as generalizing n with
  | nil => cases hmem
  | cons b as ih =>
    cases n with
    | zero => exact Nat.zero_le _
    | succ n =>
      rw [List.take_succ_cons, List.mem_cons, not_or] at hnot
      have hb : b ≠ a := Ne.symm hnot.1
      have hrest := ih ((List.mem_cons.1 hmem).resolve_left hnot.1) hnot.2
      rw [List.takeWhile_cons_of_pos (by simpa using hb), List.length_cons]
      omega

end

/-- The permitted addresses among the answers, unmapped. -/
def permittedAnswers (allowLoopback : Bool) (answers : List (Option Addr)) : List Addr :=
  (answers.filterMap (·.map Addr.unmap)).filter fun addr => validateAnswer addr allowLoopback = .ok ()

/-- The distinct permitted addresses of one family, in the order of the answers. -/
def familyOf (is4 : Bool) (allowLoopback : Bool) (answers : List (Option Addr)) : List Addr :=
  (firstSeen [] (permittedAnswers allowLoopback answers)).filter (·.is4 = is4)

variable {allowLoopback : Bool} {answers : List (Option Addr)} {addr : Addr}

/-- One more candidate in a family, if there is room for it. -/
theorem append_take {α : Type} {a : α} {as bs : List α} {n : Nat} :
    (if n ≤ as.length then as ++ bs.take (n - as.length)
      else (as ++ [a]) ++ bs.take (n - (as ++ [a]).length)) = as ++ (a :: bs).take (n - as.length) := by
  split
  next h => simp [Nat.sub_eq_zero_of_le h]
  next h =>
    obtain ⟨k, hk⟩ : ∃ k, n - as.length = k + 1 := ⟨n - as.length - 1, by omega⟩
    have hk' : n - (as ++ [a]).length = k := by
      rw [List.length_append, List.length_singleton]
      omega
    rw [hk, hk', List.take_succ_cons, List.append_assoc, List.singleton_append]

theorem filterLoop_eq {seen v6 v4 : List Addr} :
    let distinct := firstSeen seen (permittedAnswers allowLoopback answers)
    filterLoop allowLoopback seen v6 v4 answers =
      (v6 ++ (distinct.filter (·.is4 = false)).take (maxAnswersPerFamily - v6.length),
        v4 ++ (distinct.filter (·.is4 = true)).take (maxAnswersPerFamily - v4.length)) := by
  induction answers generalizing seen v6 v4 with
  | nil => simp [filterLoop, permittedAnswers, firstSeen]
  | cons answer answers ih =>
    cases answer with
    | none => exact ih
    | some answer =>
      have hpermitted : permittedAnswers allowLoopback (some answer :: answers) =
          if validateAnswer answer.unmap allowLoopback = .ok () then
            answer.unmap :: permittedAnswers allowLoopback answers
          else permittedAnswers allowLoopback answers := by
        simp [permittedAnswers, List.filter_cons]
      rw [hpermitted]
      simp only [filterLoop, ih]
      cases hvalid : validateAnswer answer.unmap allowLoopback with
      | error err => simp
      | ok =>
        by_cases hseen : answer.unmap ∈ seen
        · simp [firstSeen, hseen]
        · cases hfamily : answer.unmap.is4
          all_goals
            simp only [hseen, if_true, if_false, firstSeen, hfamily, List.filter_cons, decide_true,
              decide_false, Bool.false_eq_true, Bool.true_eq_false, ← append_take]
            split <;> rfl

theorem interleaveFamilies_eq (v6 v4 : List Addr) : interleaveFamilies v6 v4 = alternate v6 v4 := by
  induction v6 generalizing v4 with
  | nil =>
    simp only [interleaveFamilies, alternate]
    induction v4 with
    | nil => rfl
    | cons b bs ih => simpa [List.range_succ_eq_map, List.flatMap_map] using ih
  | cons a as ih =>
    cases v4 with
    | nil =>
      have hrest := ih []
      rw [alternate_nil] at hrest ⊢
      simpa [interleaveFamilies, List.range_succ_eq_map, List.flatMap_map] using hrest
    | cons b bs =>
      have hrest := ih bs
      simpa [interleaveFamilies, alternate, List.range_succ_eq_map, List.flatMap_map,
        Nat.succ_max_succ] using hrest

/-- The candidates, in closed form. The overall cap is never exceeded. -/
theorem filterAnswers_eq : filterAnswers answers allowLoopback =
    alternate ((familyOf false allowLoopback answers).take maxAnswersPerFamily)
      ((familyOf true allowLoopback answers).take maxAnswersPerFamily) := by
  unfold filterAnswers
  simp only [filterLoop_eq, interleaveFamilies_eq, List.nil_append, List.length_nil, Nat.sub_zero]
  refine List.take_of_length_le ?_
  rw [alternate_perm.length_eq, List.length_append]
  exact Nat.add_le_add (List.length_take_le _ _) (List.length_take_le _ _)

theorem mem_familyOf {is4 : Bool} : addr ∈ familyOf is4 allowLoopback answers ↔
    addr ∈ permittedAnswers allowLoopback answers ∧ addr.is4 = is4 := by
  simp [familyOf, mem_firstSeen]

theorem mem_filterAnswers : addr ∈ filterAnswers answers allowLoopback ↔
    addr ∈ (familyOf addr.is4 allowLoopback answers).take maxAnswersPerFamily := by
  rw [filterAnswers_eq, alternate_perm.mem_iff, List.mem_append]
  have hfamily : ∀ is4, addr ∈ (familyOf is4 allowLoopback answers).take maxAnswersPerFamily →
      addr.is4 = is4 := fun is4 h => (mem_familyOf.1 (List.mem_of_mem_take h)).2
  constructor
  · rintro (h | h) <;> rwa [hfamily _ h]
  · intro h
    cases hcase : addr.is4 with
    | false => exact .inl (hcase ▸ h)
    | true => exact .inr (hcase ▸ h)

theorem nodup_filterAnswers : (filterAnswers answers allowLoopback).Nodup := by
  rw [filterAnswers_eq, alternate_perm.nodup_iff, List.nodup_append]
  have hnodup : ∀ is4, (familyOf is4 allowLoopback answers).Nodup := fun _ => nodup_firstSeen.filter _
  refine ⟨(hnodup _).take, (hnodup _).take, fun addr h other h' => ?_⟩
  have hfalse := (mem_familyOf.1 (List.mem_of_mem_take h)).2
  have htrue := (mem_familyOf.1 (List.mem_of_mem_take h')).2
  rintro rfl
  rw [hfalse] at htrue
  cases htrue

/-- What `Select` returns was dialed last, after the candidates before it had failed. -/
theorem selectLoop_spec {last : Err} {plan : List (Addr × DialAttempt)} :
    (selectLoop last plan).2 <+: plan.map Prod.fst ∧
    ∀ chosen, (selectLoop last plan).1 = .ok chosen → ∃ earlier attempt later,
      plan = earlier ++ (chosen, attempt) :: later ∧ attempt.dial = .ok () ∧
      (∀ other ∈ earlier, other.2.dial ≠ .ok ()) ∧
      (selectLoop last plan).2 = (earlier.map Prod.fst) ++ [chosen] := by
  induction plan generalizing last with
  | nil => exact ⟨List.prefix_rfl, nofun⟩
  | cons first plan ih =>
    obtain ⟨candidate, attempt⟩ := first
    unfold selectLoop
    split
    next => exact ⟨List.nil_prefix, nofun⟩
    next =>
      split
      next => exact ⟨List.nil_prefix, nofun⟩
      next =>
        split
        next hdial =>
          refine ⟨by simp, fun chosen h => ?_⟩
          cases h
          exact ⟨[], attempt, plan, rfl, hdial, by simp, rfl⟩
        next err hdial =>
          split
          next => exact ⟨by simp, nofun⟩
          next =>
            obtain ⟨hdialed, hchosen⟩ := @ih (.wrap "tcp_connect" err)
            refine ⟨by simpa using hdialed, fun chosen h => ?_⟩
            obtain ⟨earlier, attempt', later, rfl, hok, hfailed, hlist⟩ := hchosen chosen h
            refine ⟨(candidate, attempt) :: earlier, attempt', later, rfl, hok, ?_, ?_⟩
            · intro other hmem
              rcases List.mem_cons.1 hmem with rfl | hmem
              · simp [hdial]
              · exact hfailed other hmem
            · simp [hlist]

/-- The candidate is dialed when its turn comes: the context and the deadline allow it. -/
def DialAttempt.Reached (attempt : DialAttempt) : Prop :=
  attempt.before = none ∧ attempt.timeLeft = true

/-- The candidate is dialed and fails, and the context allows the next one. -/
def DialAttempt.Passes (attempt : DialAttempt) : Prop :=
  attempt.Reached ∧ attempt.dial ≠ .ok () ∧ attempt.after = none

/-- `Select` goes on to a candidate that is reached when all before it have passed, and returns it
if its dial succeeds. -/
theorem selectLoop_reaches {last : Err} {candidate : Addr} {attempt : DialAttempt}
    {earlier later : List (Addr × DialAttempt)} (hpass : ∀ other ∈ earlier, other.2.Passes)
    (hreached : attempt.Reached) : earlier.map Prod.fst ++ [candidate] <+:
        (selectLoop last (earlier ++ (candidate, attempt) :: later)).2 ∧
      (attempt.dial = .ok () →
        (selectLoop last (earlier ++ (candidate, attempt) :: later)).1 = .ok candidate) := by
  induction earlier generalizing last with
  | nil =>
    simp only [List.nil_append, selectLoop, hreached.1, hreached.2]
    cases hdial : attempt.dial with
    | ok _ => exact ⟨List.prefix_rfl, fun _ => rfl⟩
    | error err => cases attempt.after <;> exact ⟨by simp, nofun⟩
  | cons first earlier ih =>
    obtain ⟨⟨hbefore, htime⟩, hfailed, hafter⟩ := hpass first List.mem_cons_self
    cases hdial : first.2.dial with
    | ok _ => exact absurd hdial hfailed
    | error err =>
      obtain ⟨hdialed, hchosen⟩ :=
        @ih (.wrap "tcp_connect" err) fun other hmem => hpass other (List.mem_cons_of_mem _ hmem)
      simp only [List.cons_append, selectLoop, hbefore, htime, hdial, hafter]
      exact ⟨by simpa using hdialed, hchosen⟩

/-- **Address selection keeps the right candidates.** The candidates are the first distinct
permitted addresses of each family, in the order of the answers and by turns, beginning with
IPv6; a permitted address is left out only when its family has the cap of earlier ones. They are
dialed in order, each after the ones before it have failed unless the context or the deadline ends
the dialing, and the one that is returned is the first whose dial succeeds. -/
theorem candidates_selected (answers : List (Option Addr)) (allowLoopback : Bool) :
    (filterAnswers answers allowLoopback =
      alternate ((familyOf false allowLoopback answers).take maxAnswersPerFamily)
        ((familyOf true allowLoopback answers).take maxAnswersPerFamily)) ∧
    (filterAnswers answers allowLoopback).Nodup ∧
    (filterAnswers answers allowLoopback).length ≤ maxAnswersTotal ∧
    (∀ is4, ((filterAnswers answers allowLoopback).filter (·.is4 = is4)).length ≤
      maxAnswersPerFamily) ∧
    (∀ addr ∈ filterAnswers answers allowLoopback,
      addr.unmap = addr ∧ validateAnswer addr allowLoopback = .ok ()) ∧
    (∀ addr ∈ permittedAnswers allowLoopback answers,
      addr ∉ filterAnswers answers allowLoopback → maxAnswersPerFamily ≤
        ((familyOf addr.is4 allowLoopback answers).takeWhile (· ≠ addr)).length) ∧
    ∀ plan port, (selectCandidate plan port).2 <+: plan.map Prod.fst ∧
      (∀ chosen, (selectCandidate plan port).1 = .ok chosen → ∃ earlier attempt later,
        plan = earlier ++ (chosen, attempt) :: later ∧ attempt.dial = .ok () ∧
        (∀ other ∈ earlier, other.2.dial ≠ .ok ()) ∧
        (selectCandidate plan port).2 = earlier.map Prod.fst ++ [chosen]) ∧
      (port ≠ 0 → ∀ earlier candidate attempt later, plan = earlier ++ (candidate, attempt) :: later →
        (∀ other ∈ earlier, other.2.Passes) → attempt.Reached →
        earlier.map Prod.fst ++ [candidate] <+: (selectCandidate plan port).2 ∧
        (attempt.dial = .ok () → (selectCandidate plan port).1 = .ok candidate)) := by
  refine ⟨filterAnswers_eq, nodup_filterAnswers, ?_, fun is4 => ?_, fun addr hmem => ?_,
    fun addr hmem hnot => ?_, fun plan port => ?_⟩
  · exact List.length_take_le _ _
  · have hsub : (filterAnswers answers allowLoopback).filter (·.is4 = is4) ⊆
        (familyOf is4 allowLoopback answers).take maxAnswersPerFamily := by
      intro addr hmem
      obtain ⟨hmem, his4⟩ := List.mem_filter.1 hmem
      rw [mem_filterAnswers] at hmem
      rwa [of_decide_eq_true his4] at hmem
    exact (List.subperm_of_subset (nodup_filterAnswers.filter _) hsub).length_le.trans
      (List.length_take_le _ _)
  · have hpermitted := (mem_familyOf.1 (List.mem_of_mem_take (mem_filterAnswers.1 hmem))).1
    obtain ⟨hanswer, hvalid⟩ := List.mem_filter.1 hpermitted
    obtain ⟨answer, -, hanswer⟩ := List.mem_filterMap.1 hanswer
    obtain ⟨raw, -, rfl⟩ := Option.map_eq_some_iff.1 hanswer
    exact ⟨unmap_unmap, of_decide_eq_true hvalid⟩
  · exact le_length_takeWhile (mem_familyOf.2 ⟨hmem, rfl⟩) (mem_filterAnswers.not.1 hnot)
  · unfold selectCandidate
    split
    next hport => exact ⟨List.nil_prefix, nofun, fun h => absurd hport h⟩
    next =>
      split
      next hempty =>
        refine ⟨List.nil_prefix, nofun, fun _ earlier candidate attempt later hplan => ?_⟩
        simp [hplan] at hempty
      next =>
        refine ⟨selectLoop_spec.1, selectLoop_spec.2, ?_⟩
        rintro - earlier candidate attempt later rfl hpass hreached
        exact selectLoop_reaches hpass hreached

end WarpTweet
