import Mathlib.Data.List.Perm.Basic
import Mathlib.Data.List.Nodup
import ShortHand.Application.Classification

/-! Classification as a transaction: three checks and one append. Growing, rolling back and the
workspace cannot be told from that. -/

namespace ShortHand.Application

open ShortHand.Library
open List hiding after count product

variable {A : Arithmetic} {c : ApplicationConfiguration A}

/-- The check of the raw values. -/
def checkValues (c : ApplicationConfiguration A) : List A.Float → Except String Unit
  | [] => .ok ()
  | value :: rest => do
    ensure (!(!A.isFinite value || A.doubleLt (A.widen value) c.inputMin ||
      A.doubleLt c.inputMax (A.widen value))) "application_input_outside_range"
    ensure (A.isFinite (normalize c value)) "application_preprocessing_overflow"
    checkValues c rest

def checkBatch (c : ApplicationConfiguration A) (raw : List A.Float) : Except String Unit := do
  ensure (raw.length != 0 && raw.length % c.features == 0 && raw.length ≤ c.batchSize * c.features)
    "invalid_application_batch"
  checkValues c raw

/-- The check of what the session wrote and returned. -/
def checkRun (c : ApplicationConfiguration A) (call : SessionRun A) : Except String Unit := do
  let result ← call.outcome
  ensure result.success ("application_inference_failed:" ++ result.reason)
  ensure (result.outputF32Empty && result.outputElements == c.paddedScores)
    "application_output_count_mismatch"
  ensure (call.written.all A.isFinite) "nonfinite_application_output"

/-- The normalised batch with its zero rows. -/
def paddedInput (c : ApplicationConfiguration A) (raw : List A.Float) : List A.Float :=
  raw.map (normalize c) ++ replicate (c.batchSize * c.features - raw.length) A.zero

/-- The best labels of each row of some scores. -/
def rankedRows (sort : PartialSort) (c : ApplicationConfiguration A) (scores : List A.Float)
    (count : Nat) : List (List Nat) :=
  (range count).map fun row => (rankRow sort c scores 0 row).take c.topK

def Outputs.append (out : Outputs A) (scores : List A.Float) (rows : List (List Nat)) : Outputs A where
  scores := out.scores ++ scores
  predictions := out.predictions ++ rows.map (·.headD 0)
  topK := out.topK ++ rows.flatten

/-- The batch that a session answered, appended to the caller's vectors. -/
def appendRows (sort : PartialSort) (c : ApplicationConfiguration A) (written : List A.Float)
    (count : Nat) (out : Outputs A) : Outputs A :=
  out.append (written.take (count * c.classes))
    (rankedRows sort c (written.take (count * c.classes)) count)

def classified (sort : PartialSort) (c : ApplicationConfiguration A)
    (session : Session A c.paddedScores) (raw : List A.Float) (out : Outputs A) :
    Except String (Outputs A) := do
  checkBatch c raw
  checkOutputs c (raw.length / c.features) out
  checkRun c (session.run (paddedInput c raw))
  return appendRows sort c (session.run (paddedInput c raw)).written (raw.length / c.features) out

@[simp] theorem length_resize (size : Nat) (fill : α) (values : List α) :
    (resize size fill values).length = size := by
  simp only [resize, length_append, length_take, length_replicate]
  omega

theorem resize_of_le (fill : α)
    (small : size ≤ values.length) : resize size fill values = values.take size := by
  rw [resize, Nat.sub_eq_zero_of_le small, replicate_zero, append_nil]

theorem resize_add (values : List α) (more : Nat) (fill : α) :
    resize (values.length + more) fill values = values ++ replicate more fill := by
  rw [resize, take_of_length_le (Nat.le_add_right _ _), Nat.add_sub_cancel_left]

/-- The loop over the raw values decides as the check does, and writes the normalised
values over whatever the workspace held. -/
theorem fillInput_eq (raw : List A.Float) (index : Nat) (data : List A.Float)
    (room : index + raw.length ≤ data.length) :
    (fillInput c raw index data).1 = checkValues c raw ∧
      (checkValues c raw = .ok () → (fillInput c raw index data).2 =
        data.take index ++ raw.map (normalize c) ++ data.drop (index + raw.length)) := by
  induction raw generalizing index data with
  | nil => simp [fillInput, checkValues]
  | cons value rest ih =>
    rw [length_cons] at room
    have later := ih (index + 1) (data.set index (normalize c value))
      (by rw [length_set]; omega)
    rw [fillInput, checkValues]
    split
    · rename_i outside
      simp only [outside, Bool.not_true, ensure, Bool.false_eq_true, if_false]
      exact ⟨rfl, nofun⟩
    · rename_i inside
      simp only [inside, Bool.not_false, ensure, if_true]
      cases overflow : A.isFinite (normalize c value) with
      | false => exact ⟨rfl, nofun⟩
      | true =>
        refine ⟨later.1, fun passed => ?_⟩
        have filled := later.2 passed
        simp only [Bool.not_true, Bool.false_eq_true, if_false]
        rw [filled]
        have within : index < data.length := by omega
        have front : (data.set index (normalize c value)).take (index + 1) =
            data.take index ++ [normalize c value] := by
          rw [take_add_one, take_set_of_le (Nat.le_refl _), getElem?_set_self within]
          rfl
        have behind : (data.set index (normalize c value)).drop (index + 1 + rest.length) =
            data.drop (index + 1 + rest.length) := drop_set_of_lt (by omega)
        rw [front, behind, map_cons, length_cons, Nat.add_assoc index 1,
          Nat.add_comm 1 rest.length]
        simp

/-- The whole input that the session is given. -/
theorem paddedInput_eq (workspace : List A.Float)
    (fits : raw.length ≤ c.batchSize * c.features) (passed : checkValues c raw = .ok ()) :
    let data := (fillInput c raw 0 (resize (c.batchSize * c.features) A.zero workspace)).2
    data.take raw.length ++ replicate (data.length - raw.length) A.zero = paddedInput c raw := by
  have filled := (@fillInput_eq A c raw 0 (resize (c.batchSize * c.features) A.zero workspace)
    (by rw [length_resize]; omega)).2 passed
  intro data
  have shape : data = raw.map (normalize c) ++
      (resize (c.batchSize * c.features) A.zero workspace).drop raw.length := by
    simpa using filled
  have front : data.take raw.length = raw.map (normalize c) := by
    rw [shape]
    exact take_left' (length_map _)
  have whole : data.length = c.batchSize * c.features := by
    rw [shape, length_append, length_map, length_drop, length_resize]
    omega
  rw [front, whole, paddedInput]

theorem rollback_append (before : Outputs A) (scores : List A.Float) :
    rollback before { before with scores := before.scores ++ scores } = before := by
  have same : ∀ {α : Type} (fill : α) (values : List α), resize values.length fill values = values := by
    intro α fill values
    rw [resize_of_le fill (Nat.le_refl _), take_length]
  unfold rollback
  rw [resize_of_le A.zero (by simp), take_left' rfl, same, same]

/-- After some rows the vectors hold what those rows gave and zeros for the rest. -/
theorem storeRows_eq (order : Nat → List Nat) (before : Outputs A) (scores : List A.Float)
    (count : Nat) (full : ∀ row < count, ((order row).take c.topK).length = c.topK)
    (rows : Nat) (within : rows ≤ count) :
    (range rows).foldl (fun out row =>
        storeRow c (order row) before.predictions.length before.topK.length row out)
      { scores
        predictions := before.predictions ++ replicate count 0
        topK := before.topK ++ replicate (count * c.topK) 0 } =
      { scores
        predictions := before.predictions ++ ((range rows).map fun row => (order row).headD 0) ++
          replicate (count - rows) 0
        topK := before.topK ++ ((range rows).map fun row => (order row).take c.topK).flatten ++
          replicate ((count - rows) * c.topK) 0 } := by
  induction rows with
  | zero => simp
  | succ rows ih =>
    have ranked : (((range rows).map fun row => (order row).take c.topK).flatten).length =
        rows * c.topK := by
      rw [length_flatten, map_map, map_congr_left (g := fun _ => c.topK)]
      · simp
      · intro row member
        exact full row (by have := mem_range.mp member; omega)
    obtain ⟨rest, left⟩ : ∃ rest, count - rows = rest + 1 := ⟨count - rows - 1, by omega⟩
    rw [range_succ, foldl_append, ih (by omega)]
    simp only [foldl_cons, foldl_nil, storeRow, map_append, map_cons,
      map_nil, flatten_append, flatten_cons, flatten_nil, append_nil]
    have fewer : count - (rows + 1) = rest := by omega
    congr 1
    · rw [set_append_right _ _ (by simp), left, fewer]
      simp [replicate_succ]
    generalize ((range rows).map fun row => (order row).take c.topK).flatten = stored at ranked ⊢
    have front : (before.topK ++ stored ++ replicate ((count - rows) * c.topK) 0).take
        (before.topK.length + rows * c.topK) = before.topK ++ stored :=
      take_left' (by rw [length_append, ranked])
    have behind : (before.topK ++ stored ++ replicate ((count - rows) * c.topK) 0).drop
        (before.topK.length + rows * c.topK + c.topK) = replicate (rest * c.topK) 0 := by
      rw [drop_append, drop_of_length_le (by rw [length_append, ranked]; omega),
        nil_append, length_append, ranked, drop_replicate, left, Nat.succ_mul]
      congr 1
      omega
    rw [front, behind, fewer]
    simp

theorem scoreAt_append (scores more : List A.Float) (classes row label : Nat) :
    scoreAt (scores ++ more) scores.length classes row label = scoreAt more 0 classes row label := by
  have position : scores.length + row * classes + label - scores.length = 0 + row * classes + label := by
    omega
  rw [scoreAt, scoreAt, getD_eq_getElem?_getD, getD_eq_getElem?_getD,
    getElem?_append_right (by omega), position]

theorem rankRow_append (sort : PartialSort) (scores more : List A.Float) (row : Nat) :
    rankRow sort c (scores ++ more) scores.length row = rankRow sort c more 0 row := by
  unfold rankRow
  congr 2
  funext label
  exact scoreAt_append scores more c.classes row label

theorem length_rankRow (sort : PartialSort) (scores : List A.Float) (base row : Nat) :
    (rankRow sort c scores base row).length = c.classes := by
  rw [rankRow, (sort.perm _ _ _).length_eq, length_range]

theorem acceptConfiguration_eq_ok (accepted : acceptConfiguration c = .ok ()) :
    0 < c.features ∧ 2 ≤ c.classes ∧ 0 < c.topK ∧ c.topK ≤ c.classes ∧ 0 < c.batchSize ∧
      c.batchSize ≤ 1024 ∧ c.classes ≤ 256 := by
  obtain ⟨sizes, _⟩ := check_eq_ok.mp accepted
  simp only [ensure_eq_ok, Bool.and_eq_true, decide_eq_true_eq] at sizes
  omega

/-- The guarded part fails with vectors that the rollback restores, or appends. -/
theorem inferRows_eq (sort : PartialSort) (accepted : acceptConfiguration c = .ok ())
    (session : Session A c.paddedScores) (data : List A.Float) {count : Nat} (before : Outputs A)
    (fits : count ≤ c.batchSize) :
    (∃ what, checkRun c (session.run data) = .error what ∧
        ∃ touched, inferRows sort c session data count before = (.error what, touched) ∧
          rollback before touched = before) ∨
      checkRun c (session.run data) = .ok () ∧
        inferRows sort c session data count before =
          (.ok (), appendRows sort c (session.run data).written count before) := by
  obtain ⟨_, _, ranks, fewer, _⟩ := acceptConfiguration_eq_ok accepted
  have length := session.within data
  unfold inferRows checkRun
  generalize session.run data = call at length ⊢
  have grown : (resize (before.scores.length + c.paddedScores) A.zero before.scores).take
      before.scores.length ++ call.written = before.scores ++ call.written := by
    rw [resize_add, take_left' rfl]
  have restored := rollback_append before call.written
  dsimp only
  rw [grown]
  cases outcome : call.outcome with
  | error what => exact .inl ⟨what, rfl, _, rfl, restored⟩
  | ok result =>
    cases succeeded : result.success with
    | false =>
      exact .inl ⟨"application_inference_failed:" ++ result.reason,
        by simp [ensure, succeeded, bind, Except.bind], _, by simp [succeeded], restored⟩
    | true =>
      cases sized : result.outputF32Empty && result.outputElements == c.paddedScores with
      | false =>
        exact .inl ⟨"application_output_count_mismatch",
          by simp [ensure, succeeded, sized, bind, Except.bind], _, by simp [succeeded, sized], restored⟩
      | true =>
        cases finite : call.written.all A.isFinite with
        | false =>
          exact .inl ⟨"nonfinite_application_output",
            by simp [ensure, succeeded, sized, bind, Except.bind], _, by simp [succeeded, sized, finite],
            restored⟩
        | true =>
          refine .inr ⟨by simp [ensure, succeeded, sized, bind, Except.bind], ?_⟩
          simp only [succeeded, sized, finite, drop_left' rfl, Bool.not_true, Bool.false_eq_true,
            if_false]
          have scores : resize (before.scores.length + count * c.classes) A.zero
              (before.scores ++ call.written) =
                before.scores ++ call.written.take (count * c.classes) := by
            have enough : count * c.classes ≤ call.written.length := by
              rw [length]
              exact Nat.mul_le_mul_right _ fits
            rw [resize_of_le _ (by rw [length_append]; omega), take_append,
              take_of_length_le (by omega), Nat.add_sub_cancel_left]
          have first : ∀ order : List Nat, (order.take c.topK).headD 0 = order.headD 0 := by
            intro order
            obtain ⟨less, some⟩ : ∃ less, c.topK = less + 1 := ⟨c.topK - 1, by omega⟩
            cases order <;> simp [some]
          rw [scores, resize_add, resize_add, storeRows_eq _ before _ count ?_ count (Nat.le_refl _)]
          · simp only [appendRows, Outputs.append, rankedRows, rankRow_append, map_map,
              Function.comp_def, first, Nat.sub_self, Nat.zero_mul, replicate_zero,
              append_nil]
          · intro row _
            rw [length_take, length_rankRow]
            omega

/-- The code and the transaction give the same answer and leave the same vectors,
whatever the workspace held. -/
theorem classifyAppend_eq (sort : PartialSort) (accepted : acceptConfiguration c = .ok ())
    (session : Session A c.paddedScores) (raw workspace : List A.Float) (out : Outputs A) :
    ((classifyAppend sort c session raw workspace out).1,
        (classifyAppend sort c session raw workspace out).2.2) =
      match classified sort c session raw out with
      | .ok after => (.ok (), after)
      | .error what => (.error what, out) := by
  unfold classifyAppend classifyBatchAppend classified checkBatch
  cases sized : raw.length != 0 && raw.length % c.features == 0 &&
      decide (raw.length ≤ c.batchSize * c.features) with
  | false => simp [ensure, bind, Except.bind]
  | true =>
    have fits : raw.length ≤ c.batchSize * c.features := by
      simp only [Bool.and_eq_true, decide_eq_true_eq] at sized
      exact sized.2
    have count : raw.length / c.features ≤ c.batchSize :=
      Nat.div_le_of_le_mul (by rwa [Nat.mul_comm])
    have decided := (@fillInput_eq A c raw 0 (resize (c.batchSize * c.features) A.zero workspace)
      (by rw [length_resize]; omega)).1
    have padded := @paddedInput_eq A c raw workspace fits
    generalize fillInput c raw 0 (resize (c.batchSize * c.features) A.zero workspace) = filled
      at decided padded ⊢
    obtain ⟨answer, data⟩ := filled
    subst decided
    cases values : checkValues c raw with
    | error what => simp [ensure, bind, Except.bind]
    | ok _ =>
      have input := padded values
      cases outputs : checkOutputs c (raw.length / c.features) out with
      | error what => simp [ensure, bind, Except.bind]
      | ok _ =>
        rcases inferRows_eq sort accepted session (paddedInput c raw) out count with
          ⟨what, failed, touched, ran, restored⟩ | ⟨passed, ran⟩
        · simp [ensure, bind, Except.bind, input, ran, failed, restored]
        · simp [ensure, bind, Except.bind, input, ran, passed, pure, Except.pure]

/-- A label comes before another if its score is higher, or equal and its number
lower. -/
def Better (score : Nat → A.Float) (a b : Nat) : Prop :=
  A.rank (score b) < A.rank (score a) ∨ A.rank (score a) = A.rank (score b) ∧ a < b

/-- The `count` best of the labels below `classes`, best first. -/
structure BestLabels (score : Nat → A.Float) (classes count : Nat) (row : List Nat) : Prop where
  length : row.length = count
  labels : ∀ a ∈ row, a < classes
  ordered : row.Pairwise (Better score)
  best : ∀ a ∈ row, ∀ b < classes, b ∉ row → Better score a b

theorem precedes_iff {score : Nat → A.Float} (finite : A.isFinite (score a) = true)
    (finite' : A.isFinite (score b) = true) : precedes score a b = true ↔ Better score a b := by
  unfold precedes Better
  by_cases equal : A.rank (score a) = A.rank (score b)
  · rw [if_pos ((A.eq_iff _ _ finite finite').mpr equal), decide_eq_true_eq, equal]
    omega
  · rw [if_neg fun same => equal ((A.eq_iff _ _ finite finite').mp same),
      A.lt_iff _ _ finite' finite]
    omega

theorem precedes_orders (finite : ∀ label < classes, A.isFinite (score label) = true) :
    Orders (precedes score) (range classes) := by
  have meaning : ∀ a ∈ range classes, ∀ b ∈ range classes,
      (precedes score a b = true ↔ Better score a b) := fun a inside b inside' =>
    precedes_iff (finite a (mem_range.mp inside)) (finite b (mem_range.mp inside'))
  constructor
  · intro a inside b inside' first
    rw [Bool.eq_false_iff, ne_eq, meaning b inside' a inside]
    rw [meaning a inside b inside'] at first
    unfold Better at first ⊢
    omega
  · intro a inside b inside' d inside'' first second
    rw [meaning a inside b inside'] at first
    rw [meaning b inside' d inside''] at second
    rw [meaning a inside d inside'']
    unfold Better at first second ⊢
    omega
  · intro a inside b inside' different
    rw [meaning a inside b inside', meaning b inside' a inside]
    unfold Better
    omega

/-- The first labels after the partial sort are the best ones. -/
theorem rankRow_best (sort : PartialSort) (accepted : acceptConfiguration c = .ok ())
    {scores : List A.Float} {row : Nat}
    (finite : ∀ label < c.classes, A.isFinite (scoreAt scores 0 c.classes row label) = true) :
    BestLabels (scoreAt scores 0 c.classes row) c.classes c.topK
      ((rankRow sort c scores 0 row).take c.topK) := by
  obtain ⟨_, _, _, fewer, _⟩ := acceptConfiguration_eq_ok accepted
  have orders := precedes_orders finite
  have perm := sort.perm (precedes (scoreAt scores 0 c.classes row)) c.topK (range c.classes)
  obtain ⟨sorted, separated⟩ := sort.ordered _ c.topK _ orders (by rwa [length_range])
  change (rankRow sort c scores 0 row).Perm (range c.classes) at perm
  change ((rankRow sort c scores 0 row).take c.topK).Pairwise _ at sorted
  change ∀ a ∈ (rankRow sort c scores 0 row).take c.topK,
    ∀ b ∈ (rankRow sort c scores 0 row).drop c.topK, _ at separated
  have length := @length_rankRow A c sort scores 0 row
  generalize rankRow sort c scores 0 row = order at perm sorted separated length ⊢
  have inside : ∀ a ∈ order, a ∈ range c.classes := fun a member => perm.mem_iff.mp member
  have distinct : order.Nodup := perm.nodup_iff.mpr nodup_range
  -- of two different labels the one that is not second is first
  have before : ∀ a ∈ order, ∀ b ∈ order, a ≠ b →
      precedes (scoreAt scores 0 c.classes row) b a = false →
      Better (scoreAt scores 0 c.classes row) a b := by
    intro a member b member' different notAfter
    rw [← precedes_iff (finite a (mem_range.mp (inside a member)))
      (finite b (mem_range.mp (inside b member')))]
    rcases orders.total a (inside a member) b (inside b member') different with first | after
    · exact first
    · cases notAfter.symm.trans after
  have taken : ∀ a ∈ order.take c.topK, a ∈ order := fun a member => mem_of_mem_take member
  constructor
  · rw [length_take]
    omega
  · exact fun a member => mem_range.mp (inside a (taken a member))
  · have both := sorted.and (distinct.sublist (take_sublist c.topK order))
    refine both.imp_of_mem fun {a b} member member' facts => ?_
    exact before a (taken a member) b (taken b member') facts.2 facts.1
  · intro a member b small absent
    have listed : b ∈ order := perm.mem_iff.mpr (mem_range.mpr small)
    have dropped : b ∈ order.drop c.topK := by
      rw [← take_append_drop c.topK order] at listed
      exact (mem_append.mp listed).resolve_left absent
    refine before a (taken a member) b listed ?_ (separated a member b dropped)
    rintro rfl
    exact absent member

theorem classified_eq_ok {sort : PartialSort} :
    classified sort c session raw out = .ok after ↔
      checkBatch c raw = .ok () ∧ checkOutputs c (raw.length / c.features) out = .ok () ∧
        checkRun c (session.run (paddedInput c raw)) = .ok () ∧
        after = appendRows sort c (session.run (paddedInput c raw)).written
          (raw.length / c.features) out := by
  unfold classified
  rw [check_eq_ok, check_eq_ok, check_eq_ok]
  refine and_congr_right fun _ => and_congr_right fun _ => and_congr_right fun _ => ?_
  constructor
  · intro returned
    cases returned
    rfl
  · rintro rfl
    rfl

theorem checkBatch_eq_ok (passed : checkBatch c raw = .ok ()) :
    raw.length ≠ 0 ∧ raw.length % c.features = 0 ∧ raw.length ≤ c.batchSize * c.features := by
  obtain ⟨sized, _⟩ := check_eq_ok.mp passed
  simpa [and_assoc] using sized

theorem checkRun_finite (passed : checkRun c call = .ok ()) :
    call.written.all A.isFinite = true := by
  obtain ⟨result, _, checks⟩ := bind_eq_ok.mp passed
  obtain ⟨_, checks⟩ := check_eq_ok.mp checks
  obtain ⟨_, finite⟩ := check_eq_ok.mp checks
  exact ensure_eq_ok.mp finite

/-- The rows that are kept hold the best labels of the whole answer. -/
theorem rankedRows_best {written : List A.Float} {row count : Nat} (sort : PartialSort)
    (accepted : acceptConfiguration c = .ok ()) (finite : written.all A.isFinite = true)
    (enough : count * c.classes ≤ written.length) (inside : row < count) :
    BestLabels (scoreAt written 0 c.classes row) c.classes c.topK
      ((rankedRows sort c (written.take (count * c.classes)) count).getD row []) := by
  -- the scores of this row lie in the part that is kept
  have kept : ∀ label < c.classes, row * c.classes + label < count * c.classes := by
    intro label small
    calc row * c.classes + label < row * c.classes + c.classes := by omega
      _ = (row + 1) * c.classes := (Nat.succ_mul _ _).symm
      _ ≤ count * c.classes := Nat.mul_le_mul_right _ inside
  have score : ∀ label < c.classes,
      scoreAt (written.take (count * c.classes)) 0 c.classes row label =
        scoreAt written 0 c.classes row label := by
    intro label small
    rw [scoreAt, scoreAt, getD_eq_getElem?_getD, getD_eq_getElem?_getD, Nat.zero_add,
      getElem?_take_of_lt (kept label small)]
  have rowFinite : ∀ label < c.classes,
      A.isFinite (scoreAt written 0 c.classes row label) = true := by
    intro label small
    have within : row * c.classes + label < written.length := 
      Nat.lt_of_lt_of_le (kept label small) enough
    rw [scoreAt, Nat.zero_add, getD_eq_getElem?_getD, getElem?_eq_getElem within, Option.getD_some]
    exact all_eq_true.mp finite _ (getElem_mem within)
  have best := @rankRow_best A c sort accepted (written.take (count * c.classes)) row
    fun label small => by rw [score label small]; exact rowFinite label small
  have entry : (rankedRows sort c (written.take (count * c.classes)) count).getD row [] =
      (rankRow sort c (written.take (count * c.classes)) 0 row).take c.topK := by
    simp [rankedRows, getD_eq_getElem?_getD, getElem?_range inside]
  rw [entry]
  have sameOrder : ∀ a < c.classes, ∀ b < c.classes,
      Better (scoreAt (written.take (count * c.classes)) 0 c.classes row) a b →
      Better (scoreAt written 0 c.classes row) a b := by
    intro a small b small' better
    unfold Better at better ⊢
    rwa [score a small, score b small'] at better
  refine ⟨best.length, best.labels, ?_, ?_⟩
  · exact best.ordered.imp_of_mem fun {a b} member member' =>
      sameOrder a (best.labels a member) b (best.labels b member')
  · intro a member b small absent
    exact sameOrder a (best.labels a member) b small (best.best a member b small absent)

/-- A partial sort that sorts everything. -/
def wholeSort : PartialSort where
  run less _ items := items.mergeSort fun a b => b ∉ items || (a ∈ items && !less b a)
  perm _ _ _ := mergeSort_perm _ _
  ordered less middle items orders _ := by
    have sorted : (items.mergeSort fun a b => b ∉ items || (a ∈ items && !less b a)).Pairwise
        fun a b => (decide (b ∉ items) || (decide (a ∈ items) && !less b a)) = true := by
      refine pairwise_mergeSort ?_ ?_ items
      · intro a b d first second
        simp only [Bool.or_eq_true, decide_eq_true_eq, Bool.and_eq_true, Bool.not_eq_true'] at *
        by_cases outside : d ∈ items
        · obtain ⟨inside, second⟩ := second.resolve_left (fun absent => absent outside)
          obtain ⟨inside', first⟩ := first.resolve_left (fun absent => absent inside)
          refine .inr ⟨inside', Bool.eq_false_iff.mpr fun after => ?_⟩
          by_cases same : a = b
          · subst same
            cases second.symm.trans after
          · have earlier := (orders.total a inside' b inside same).resolve_right
              (by simp [first])
            have later := orders.trans d outside a inside' b inside after earlier
            cases second.symm.trans later
        · exact .inl outside
      · intro a b
        simp only [Bool.or_eq_true, decide_eq_true_eq, Bool.and_eq_true, Bool.not_eq_true']
        by_cases inside : a ∈ items
        · by_cases inside' : b ∈ items
          · cases after : less b a with
            | false => exact .inl (.inr ⟨inside, rfl⟩)
            | true => exact .inr (.inr ⟨inside', orders.asymm b inside' a inside after⟩)
          · exact .inl (.inl inside')
        · exact .inr (.inl inside)
    have members : ∀ a ∈ items.mergeSort fun a b => b ∉ items || (a ∈ items && !less b a),
        a ∈ items := fun a member => mem_mergeSort.mp member
    have notAfter : (items.mergeSort fun a b => b ∉ items || (a ∈ items && !less b a)).Pairwise
        fun a b => less b a = false := by
      refine sorted.imp_of_mem fun {a b} _ member order => ?_
      simp only [members b member, not_true_eq_false, decide_false, Bool.false_or, Bool.and_eq_true,
        Bool.not_eq_true'] at order
      exact order.2
    rw [← take_append_drop middle
      (items.mergeSort fun a b => b ∉ items || (a ∈ items && !less b a))] at notAfter
    obtain ⟨front, _, across⟩ := pairwise_append.mp notAfter
    exact ⟨front, across⟩

/-- Whole numbers as scores. -/
def wholeArithmetic : Arithmetic where
  Float := Int
  Double := Int
  zero := (0 : Int)
  isFinite _ := true
  lt left right := decide ((left : Int) < right)
  eq left right := decide ((left : Int) = right)
  rank value := value
  widen value := value
  narrow value := value
  doubleIsFinite _ := true
  doubleLt left right := decide ((left : Int) < right)
  doubleIsZero value := decide ((value : Int) = 0)
  doubleSub left right := (left : Int) - right
  doubleMul left right := (left : Int) * right
  lt_iff _ _ _ _ := decide_eq_true_iff
  eq_iff _ _ _ _ := decide_eq_true_iff

instance (n : Nat) : OfNat wholeArithmetic.Float n := inferInstanceAs (OfNat Int n)

instance (n : Nat) : OfNat wholeArithmetic.Double n := inferInstanceAs (OfNat Int n)

def smallConfiguration : ApplicationConfiguration wholeArithmetic where
  batchSize := 2
  features := 1
  classes := 3
  topK := 2
  inputShape := [2, 1]
  outputShape := [2, 3]
  inputMin := 0
  inputMax := 9
  offset := 0
  scale := 1

/-- A session that scores each of its two rows. -/
def smallSession : Session wholeArithmetic smallConfiguration.paddedScores where
  run _ := ⟨[4, 7, 7, 1, 2, 3], .ok ⟨true, "", true, 6⟩⟩
  within _ := rfl

end ShortHand.Application
