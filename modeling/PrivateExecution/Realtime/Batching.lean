import PrivateExecution.Async.Machine
import PrivateExecution.Realtime.Frame

/-!
# What the batcher does to snapshots

Runs of the frame buffer (`batcher.ts`) with all that was enqueued, delivered and replaced. The buffer
coalesces frames by entity key without looking at their operation and keeps the four priorities apart,
so a pending snapshot is lost to a delta with its key (`snapshot_lost`), and a later frame with its key
in another bucket may overtake it.
-/

namespace PrivateExecution.Realtime

open Async

/-! ### Numbered keys -/

lemma append_cons_inj {α : Type} {c : α} {a b d e : List α} (h : a ++ c :: d = b ++ c :: e) (hd : c ∉ d)
    (he : c ∉ e) : d = e := by
  rcases List.append_eq_append_iff.1 h with ⟨m, -, hm⟩ | ⟨m, -, hm⟩
  · cases m with
    | nil => exact (List.cons.inj hm).2
    | cons x m =>
      rw [(List.cons.inj hm).2] at hd
      simp at hd
  · cases m with
    | nil => exact (List.cons.inj hm).2.symm
    | cons x m =>
      rw [(List.cons.inj hm).2] at he
      simp at he

lemma numberedKey_inj {a b : String} {m n : ℕ}
    (h : a ++ "#" ++ Nat.repr m = b ++ "#" ++ Nat.repr n) : m = n := by
  have hdigits : ∀ k : ℕ, '#' ∉ Nat.toDigits 10 k := by
    intro k hk
    exact absurd (Nat.isDigit_of_mem_toDigits (by norm_num) (by norm_num) hk) (by decide)
  have hlist := congrArg String.toList h
  simp only [String.toList_append, Nat.repr, String.toList_ofList, List.append_assoc] at hlist
  have hnumber := congrArg (Nat.ofDigitChars 10 · 0) 
    (append_cons_inj (d := Nat.toDigits 10 m) (e := Nat.toDigits 10 n) hlist (hdigits m) (hdigits n))
  simpa only [Nat.ofDigitChars_toDigits (by norm_num : 1 < 10) le_rfl] using hnumber

/-! ### Runs -/

inductive BatchAct where
  | enqueue (frame : DecodedFrame)
  | drainDue (now : ℚ)
  | drainAll

/-- The buffer and its history: the frames enqueued and delivered, in order, and each frame that was
coalesced with the one that took its place. -/
structure BatchLog where
  batcher : FrameBatcher
  enqueued : List DecodedFrame
  delivered : List DecodedFrame
  replaced : List (DecodedFrame × DecodedFrame)

namespace BatchLog

def empty : BatchLog := ⟨.empty, [], [], []⟩

def displaced (s : BatchLog) (frame : DecodedFrame) : List DecodedFrame :=
  ((s.batcher.buckets frame.priority).filter (·.1 == s.batcher.keyOf frame)).map Prod.snd

def Pending (s : BatchLog) (frame : DecodedFrame) : Prop :=
  ∃ priority, ∃ entry ∈ s.batcher.buckets priority, entry.2 = frame

end BatchLog

/-- The answer of an enqueue is the evicted frame; `forcedResync` is that there is one. -/
abbrev batching (options : FrameBatcherOptions) : Machine BatchAct fun _ => Option DecodedFrame where
  State := BatchLog
  step s
    | .enqueue frame =>
      let (evicted, b) := s.batcher.enqueue options frame
      (evicted, ⟨b, s.enqueued ++ [frame], s.delivered, s.replaced ++ (s.displaced frame).map (·, frame)⟩)
    | .drainDue now =>
      let (frames, b) := s.batcher.drainDue options now
      (none, { s with batcher := b, delivered := s.delivered ++ frames })
    | .drainAll =>
      let (frames, b) := s.batcher.drainAll
      (none, { s with batcher := b, delivered := s.delivered ++ frames })

/-- Frames come with increasing sequences and force no resync. -/
def Orderly (options : FrameBatcherOptions) (s : BatchLog) : BatchAct → Prop
  | .enqueue frame => (s.batcher.enqueue options frame).1 = none ∧ ∀ f ∈ s.enqueued, f.seq < frame.seq
  | _ => True

/-- Where a snapshot with the key of a new frame is pending, the frame has its priority, and is a
snapshot itself where frames are coalesced. -/
def SparesSnapshots (s : BatchLog) : BatchAct → Prop
  | .enqueue frame => ∀ priority, ∀ entry ∈ s.batcher.buckets priority, entry.2.op = .snapshot →
      entry.2.entityKey = frame.entityKey →
        priority = frame.priority ∧ (priority.val ≠ 0 → frame.op = .snapshot)
  | _ => True

instance {options : FrameBatcherOptions} {s : BatchLog} : ∀ a, Decidable (Orderly options s a ∧ SparesSnapshots s a)
  | .enqueue _ => inferInstanceAs (Decidable ((_ = none ∧ ∀ f ∈ s.enqueued, _) ∧ ∀ p, ∀ e ∈ s.batcher.buckets p, _))
  | .drainDue _ | .drainAll => .isTrue ⟨trivial, trivial⟩

/-- No snapshot is lost, and none is delivered after a newer frame with its key. -/
structure SnapshotsKept (s : BatchLog) : Prop where
  kept : ∀ f ∈ s.enqueued, f.op = .snapshot → f ∈ s.delivered ∨ s.Pending f ∨
    ∃ g, (f, g) ∈ s.replaced ∧ g.op = .snapshot ∧ g.entityKey = f.entityKey ∧ f.seq < g.seq
  ordered : s.delivered.Pairwise fun f g => g.op = .snapshot → f.entityKey = g.entityKey → f.seq ≤ g.seq

structure BatchInv (s : BatchLog) : Prop where
  key : ∀ p ≠ 0, ∀ e ∈ s.batcher.buckets p, e.1 = e.2.entityKey
  numbered : ∀ e ∈ s.batcher.buckets 0, ∃ n < s.batcher.p0Sequence, e.1 = e.2.entityKey ++ "#" ++ Nat.repr n
  known : ∀ f, s.Pending f ∨ f ∈ s.delivered → f ∈ s.enqueued
  sorted : ∀ p, (s.batcher.buckets p).Pairwise fun d e => d.2.seq < e.2.seq
  /-- A newer frame with the key of a pending snapshot waits in its bucket. -/
  home : ∀ p q, ∀ d ∈ s.batcher.buckets p, ∀ e ∈ s.batcher.buckets q, d.2.op = .snapshot →
    d.2.entityKey = e.2.entityKey → d.2.seq < e.2.seq → p = q
  /-- Nothing newer with the key of a pending snapshot was delivered. -/
  ahead : ∀ d, s.Pending d → d.op = .snapshot → ∀ f ∈ s.delivered, f.entityKey = d.entityKey → f.seq ≤ d.seq
  snapshots : SnapshotsKept s

section

variable {options : FrameBatcherOptions} {s : BatchLog}

lemma enqueue_buckets {b : FrameBatcher} {frame : DecodedFrame}
    (hfresh : frame.priority = 0 → ∀ e ∈ b.buckets 0, e.1 ≠ b.keyOf frame)
    (hnone : (b.enqueue options frame).1 = none) :
    (b.enqueue options frame).2.buckets = Function.update b.buckets frame.priority
        ((b.buckets frame.priority).filter (·.1 != b.keyOf frame) ++ [(b.keyOf frame, frame)]) ∧
      (b.enqueue options frame).2.p0Sequence =
        if frame.priority = 0 then b.p0Sequence + 1 else b.p0Sequence := by
  have hbump : (if frame.priority = 0 then { b with p0Sequence := b.p0Sequence + 1 } else b).buckets =
      b.buckets := by split <;> rfl
  have hcount : (if frame.priority = 0 then { b with p0Sequence := b.p0Sequence + 1 } else b).p0Sequence =
      if frame.priority = 0 then b.p0Sequence + 1 else b.p0Sequence := by split <;> rfl
  unfold FrameBatcher.enqueue at hnone ⊢
  dsimp only at hnone ⊢
  generalize (if frame.priority = 0 then { b with p0Sequence := b.p0Sequence + 1 } else b) = b₀
    at hbump hcount hnone ⊢
  rw [← hcount]
  by_cases hcoalesce : frame.priority ≠ 0 ∧ (b.buckets frame.priority).any (·.1 == b.keyOf frame) = true
  · rw [if_pos hcoalesce, hbump]
    exact ⟨rfl, rfl⟩
  · rw [if_neg hcoalesce] at hnone ⊢
    have habsent : ∀ e ∈ b.buckets frame.priority, e.1 ≠ b.keyOf frame := by
      intro e he
      by_cases hzero : frame.priority = 0
      · exact hfresh hzero e (hzero ▸ he)
      · intro hkey
        exact hcoalesce ⟨hzero, List.any_eq_true.2 ⟨e, he, by simpa using hkey⟩⟩
    have hfilter : (b.buckets frame.priority).filter (·.1 != b.keyOf frame) = b.buckets frame.priority :=
      List.filter_eq_self.2 fun e he => by simpa using habsent e he
    have hset : (b.buckets frame.priority).set (b.keyOf frame) frame =
        b.buckets frame.priority ++ [(b.keyOf frame, frame)] := by
      refine if_neg ?_
      simpa using fun f he => habsent (b.keyOf frame, f) he rfl
    cases hevict : (if options.capacity ≤ b₀.total then b₀.evictOne else none) with
    | some evicted => simp [hevict] at hnone
    | none =>
      rw [hfilter, ← hset, ← hbump]
      exact ⟨rfl, rfl⟩

lemma BatchInv.fresh (h : BatchInv s) {frame : DecodedFrame} (hzero : frame.priority = 0) :
    ∀ e ∈ s.batcher.buckets 0, e.1 ≠ s.batcher.keyOf frame := by
  intro e he hkey
  obtain ⟨n, hn, hname⟩ := h.numbered e he
  rw [hname, FrameBatcher.keyOf, if_pos hzero] at hkey
  exact absurd (numberedKey_inj hkey) hn.ne

lemma mem_enqueued {b : FrameBatcher} {frame : DecodedFrame} {p : Priority} {e : String × DecodedFrame} :
    e ∈ Function.update b.buckets frame.priority
        ((b.buckets frame.priority).filter (·.1 != b.keyOf frame) ++ [(b.keyOf frame, frame)]) p ↔
      e ∈ b.buckets p ∧ (p = frame.priority → e.1 ≠ b.keyOf frame) ∨
        p = frame.priority ∧ e = (b.keyOf frame, frame) := by
  by_cases hp : p = frame.priority
  · subst hp
    simp
  · simp [hp]

lemma BatchInv.enqueue {frame : DecodedFrame} (h : BatchInv s) (horderly : Orderly options s (.enqueue frame))
    (hspares : SparesSnapshots s (.enqueue frame)) :
    BatchInv ((batching options).step s (.enqueue frame)).2 := by
  obtain ⟨hnone, hseq⟩ := horderly
  obtain ⟨hbuckets, hcount⟩ := enqueue_buckets (fun hzero => h.fresh hzero) hnone
  have hpending : ∀ p, ∀ e ∈ s.batcher.buckets p, e.2.seq < frame.seq := fun p e he =>
    hseq _ (h.known _ (.inl ⟨p, e, he, rfl⟩))
  have hmem : ∀ {p e}, e ∈ (s.batcher.enqueue options frame).2.buckets p →
      e ∈ s.batcher.buckets p ∨ p = frame.priority ∧ e = (s.batcher.keyOf frame, frame) := by
    intro p e he
    rw [hbuckets, mem_enqueued] at he
    exact he.imp_left And.left
  have hdelivered : ∀ f ∈ s.delivered, f.seq < frame.seq := fun f hf => hseq f (h.known f (.inr hf))
  refine ⟨?_, ?_, ?_, ?_, ?_, ?_, ⟨?_, h.snapshots.ordered⟩⟩
  · intro p hp e he
    rcases hmem he with he | ⟨rfl, rfl⟩
    · exact h.key p hp e he
    · exact if_neg hp
  · intro e he
    dsimp only [batching]
    rw [hcount]
    rcases hmem he with he | ⟨hzero, rfl⟩
    · obtain ⟨n, hn, hname⟩ := h.numbered e he
      exact ⟨n, by split_ifs <;> omega, hname⟩
    · exact ⟨s.batcher.p0Sequence, by rw [if_pos hzero.symm]; omega, if_pos hzero.symm⟩
  · rintro f (⟨p, e, he, rfl⟩ | hf)
    · rcases hmem he with he | ⟨rfl, rfl⟩
      · exact List.mem_append_left _ (h.known _ (.inl ⟨p, e, he, rfl⟩))
      · exact List.mem_append_right _ List.mem_cons_self
    · exact List.mem_append_left _ (h.known f (.inr hf))
  · intro p
    dsimp only [batching]
    rw [hbuckets]
    by_cases hp : p = frame.priority
    · subst hp
      rw [Function.update_self, List.pairwise_append]
      refine ⟨(h.sorted _).filter _, List.pairwise_singleton .., ?_⟩
      intro d hd e he
      rw [List.mem_singleton.1 he]
      exact hpending _ d (List.mem_of_mem_filter hd)
    · rw [Function.update_of_ne hp]
      exact h.sorted p
  · intro p q d hd e he hop hkey hlt
    rcases hmem hd with hd | ⟨rfl, rfl⟩ <;> rcases hmem he with he | ⟨rfl, rfl⟩
    · exact h.home p q d hd e he hop hkey hlt
    · exact (hspares p d hd hop hkey).1
    · exact absurd (hpending q e he) hlt.asymm
    · rfl
  · rintro d ⟨p, e, he, rfl⟩ hop f hf hkey
    rcases hmem he with he | ⟨rfl, rfl⟩
    · exact h.ahead _ ⟨p, e, he, rfl⟩ hop f hf hkey
    · exact (hdelivered f hf).le
  · intro f hf hop
    rcases List.mem_append.1 hf with hf | hf
    · rcases h.snapshots.kept f hf hop with hdone | ⟨p, e, he, rfl⟩ | ⟨g, hg, hgop⟩
      · exact .inl hdone
      · by_cases hgone : p = frame.priority ∧ e.1 = s.batcher.keyOf frame
        · -- displaced: by a snapshot, since priority 0 displaces nothing
          obtain ⟨rfl, hkey⟩ := hgone
          have hne : frame.priority ≠ 0 := fun hzero => h.fresh hzero e (hzero ▸ he) hkey
          have hkey' : e.2.entityKey = frame.entityKey := by
            rw [← h.key _ hne e he, hkey]
            exact if_neg hne
          refine .inr (.inr ⟨frame, List.mem_append_right _ ?_, (hspares _ e he hop hkey').2 (Fin.val_ne_zero_iff.2 hne),
            hkey'.symm, hpending _ e he⟩)
          exact List.mem_map.2 ⟨e.2, List.mem_map.2 ⟨e, List.mem_filter.2 ⟨he, by simpa using hkey⟩, rfl⟩, rfl⟩
        · refine .inr (.inl ⟨p, e, ?_, rfl⟩)
          dsimp only [batching]
          rw [hbuckets, mem_enqueued]
          exact .inl ⟨he, fun hp hkey => hgone ⟨hp, hkey⟩⟩
      · exact .inr (.inr ⟨g, List.mem_append_left _ hg, hgop⟩)
    · rw [List.mem_singleton.1 hf]
      refine .inr (.inl ⟨frame.priority, (s.batcher.keyOf frame, frame), ?_, rfl⟩)
      dsimp only [batching]
      rw [hbuckets, mem_enqueued]
      exact .inr ⟨rfl, rfl⟩

lemma BatchInv.flush (h : BatchInv s) {p : Priority} {b : FrameBatcher}
    (hbuckets : b.buckets = Function.update s.batcher.buckets p [])
    (hcount : b.p0Sequence = s.batcher.p0Sequence) :
    BatchInv { s with batcher := b, delivered := s.delivered ++ (s.batcher.buckets p).map Prod.snd } := by
  have hmem : ∀ {q e}, e ∈ b.buckets q → q ≠ p ∧ e ∈ s.batcher.buckets q := by
    intro q e he
    rw [hbuckets] at he
    by_cases hq : q = p
    · subst hq
      simp at he
    · exact ⟨hq, by rwa [Function.update_of_ne hq] at he⟩
  refine ⟨?_, ?_, ?_, ?_, ?_, ?_, ?_, ?_⟩
  · exact fun q hq e he => h.key q hq e (hmem he).2
  · intro e he
    obtain ⟨n, hn, hname⟩ := h.numbered e (hmem he).2
    exact ⟨n, hcount ▸ hn, hname⟩
  · rintro f (⟨q, e, he, rfl⟩ | hf)
    · exact h.known _ (.inl ⟨q, e, (hmem he).2, rfl⟩)
    · rcases List.mem_append.1 hf with hf | hf
      · exact h.known f (.inr hf)
      · obtain ⟨e, he, rfl⟩ := List.mem_map.1 hf
        exact h.known _ (.inl ⟨p, e, he, rfl⟩)
  · intro q
    dsimp only
    rw [hbuckets]
    by_cases hq : q = p
    · subst hq
      simp
    · rw [Function.update_of_ne hq]
      exact h.sorted q
  · exact fun q r d hd e he => h.home q r d (hmem hd).2 e (hmem he).2
  · rintro d ⟨q, e, he, rfl⟩ hop f hf hkey
    obtain ⟨hq, he⟩ := hmem he
    rcases List.mem_append.1 hf with hf | hf
    · exact h.ahead _ ⟨q, e, he, rfl⟩ hop f hf hkey
    · -- a newer frame of this bucket would wait in the bucket of the snapshot
      obtain ⟨d, hd, rfl⟩ := List.mem_map.1 hf
      by_contra hlt
      exact hq (h.home q p e he d hd hop hkey.symm (not_le.1 hlt))
  · intro f hf hop
    rcases h.snapshots.kept f hf hop with hdone | ⟨q, e, he, rfl⟩ | hreplaced
    · exact .inl (List.mem_append_left _ hdone)
    · by_cases hq : q = p
      · subst hq
        exact .inl (List.mem_append_right _ (List.mem_map_of_mem he))
      · refine .inr (.inl ⟨q, e, ?_, rfl⟩)
        dsimp only
        rwa [hbuckets, Function.update_of_ne hq]
    · exact .inr (.inr hreplaced)
  · dsimp only
    rw [List.pairwise_append]
    refine ⟨h.snapshots.ordered, ?_, ?_⟩
    · rw [List.pairwise_map]
      exact (h.sorted p).imp fun hlt _ _ => hlt.le
    · intro f hf g hg hop hkey
      obtain ⟨e, he, rfl⟩ := List.mem_map.1 hg
      exact h.ahead _ ⟨p, e, he, rfl⟩ hop f hf hkey

lemma BatchInv.drainDue (h : BatchInv s) (now : ℚ) :
    BatchInv ((batching options).step s (.drainDue now)).2 := by
  have hfold : ∀ (ps : List Priority) (drained : List DecodedFrame × FrameBatcher),
      BatchInv { s with batcher := drained.2, delivered := s.delivered ++ drained.1 } →
        BatchInv { s with
          batcher := (ps.foldl (FrameBatcher.drainBucket options now) drained).2
          delivered := s.delivered ++ (ps.foldl (FrameBatcher.drainBucket options now) drained).1 } := by
    intro ps
    induction ps with
    | nil => exact fun drained hdrained => hdrained
    | cons p ps ih =>
      intro drained hdrained
      refine ih _ ?_
      unfold FrameBatcher.drainBucket
      dsimp only
      split_ifs
      · exact hdrained
      · rw [← List.append_assoc]
        exact hdrained.flush rfl rfl
  exact hfold [0, 1, 2, 3] ([], s.batcher) (by rwa [List.append_nil])

lemma BatchInv.drainAll (h : BatchInv s) : BatchInv ((batching options).step s .drainAll).2 := by
  have hflush : ∀ {s : BatchLog}, BatchInv s → ∀ p, BatchInv ⟨⟨Function.update s.batcher.buckets p [],
      s.batcher.lastFlush, s.batcher.total, s.batcher.p0Sequence⟩, s.enqueued,
      s.delivered ++ (s.batcher.buckets p).map Prod.snd, s.replaced⟩ := fun h p => h.flush rfl rfl
  have hall := (hflush (hflush (hflush h 0) 1) 2).flush (p := 3) (b := s.batcher.drainAll.2) (by
    funext p
    match p with
    | 0 | 1 | 2 | 3 => rfl) rfl
  simpa [batching, FrameBatcher.drainAll] using hall

end

/-- In a run whose frames spare the pending snapshots, no snapshot is lost or overtaken, and a drain of
all buckets leaves none behind. -/
theorem batching_keeps_snapshots (options : FrameBatcherOptions) (acts : List BatchAct)
    (h : (batching options).Meets (fun s a => Orderly options s a ∧ SparesSnapshots s a) .empty acts) :
    SnapshotsKept ((batching options).run .empty acts) ∧
      ∀ f, ¬((batching options).step ((batching options).run .empty acts) .drainAll).2.Pending f := by
  have hempty : BatchInv .empty := by
    refine ⟨?_, ?_, ?_, ?_, ?_, ?_, ⟨?_, List.Pairwise.nil⟩⟩ <;>
      simp [BatchLog.empty, FrameBatcher.empty, BatchLog.Pending]
  have hinv : BatchInv ((batching options).run .empty acts) := by
    refine h.invariant hempty fun s a hs hok => ?_
    cases a with
    | enqueue frame => exact hs.enqueue hok.1 hok.2
    | drainDue now => exact hs.drainDue now
    | drainAll => exact hs.drainAll
  refine ⟨hinv.snapshots, ?_⟩
  rintro f ⟨p, e, he, -⟩
  exact absurd he List.not_mem_nil

namespace BatchSample

def options : FrameBatcherOptions := ⟨4, defaultFlushMs⟩

def frameOn (channel : RealtimeChannel) (key : String) (seq : ℕ) (op : FrameOp) : DecodedFrame :=
  ⟨seq, op, channel, channel.priority, key, none, 0, none, none⟩

def frame : ℕ → FrameOp → DecodedFrame := frameOn .ohlcv "ohlcv:SOL"

def order : ℕ → FrameOp → DecodedFrame := frameOn .orders "order:1"

def acts : List BatchAct :=
  [.enqueue (frame 1 .snapshot), .enqueue (frame 2 .snapshot), .enqueue (order 3 .snapshot),
    .enqueue (order 4 .delta), .drainDue 0, .enqueue (frame 5 .snapshot), .enqueue (order 6 .snapshot), .drainDue 1,
    .enqueue (frame 7 .snapshot), .drainAll]

end BatchSample

open BatchSample in
/-- Two buckets; a snapshot takes the place of a pending one twice, and an order its place behind one. -/
theorem batching_keeps_snapshots_sample :
    let s : BatchLog := (batching options).run .empty acts
    s.delivered.map DecodedFrame.seq = [3, 4, 2, 6, 7] ∧
      s.replaced.map (fun r => (r.1.seq, r.2.seq)) = [(1, 2), (5, 7)] ∧ SnapshotsKept s :=
  ⟨by decide +kernel, by decide +kernel, (batching_keeps_snapshots options acts (by decide +kernel)).1⟩

open BatchSample in
/-- A delta takes the place of a snapshot that was not drained yet. -/
theorem snapshot_lost : ¬ ∀ (options : FrameBatcherOptions) (acts : List BatchAct),
    (batching options).Meets (Orderly options) .empty acts →
      SnapshotsKept ((batching options).run .empty acts) := by
  intro hkept
  have horderly : (batching options).Meets (Orderly options) .empty
      [.enqueue (frame 1 .snapshot), .enqueue (frame 2 .delta), .drainAll] := by
    refine ⟨⟨rfl, ?_⟩, ⟨rfl, ?_⟩, trivial, trivial⟩ <;> simp [BatchLog.empty, frame, frameOn]
  rcases (hkept options _ horderly).kept (frame 1 .snapshot) List.mem_cons_self rfl with
    hdelivered | ⟨p, e, he, -⟩ | ⟨g, hg, hop, -⟩
  · have hseq : (frame 1 .snapshot).seq = (frame 2 .delta).seq := congrArg _ (List.mem_singleton.1 hdelivered)
    cases hseq
  · exact absurd he List.not_mem_nil
  · cases (Prod.mk.inj (List.mem_singleton.1 hg)).2
    cases hop

end PrivateExecution.Realtime
