/-!
# Cutting a stream into frames

A `Framer` looks at the front of a stream and says how long the first frame is, that it
cannot tell yet, or that the stream is corrupt. What it has said it must stand by when
more of the stream arrives. `cut` takes frames off as long as there are any.

The result everything here leads to is that cutting what has arrived, and later what was
left together with what arrived since, is cutting the whole stream.

The framers of `Header` are those of frames that begin by saying how long they are.
-/

namespace Framing

/-- What the front of a stream tells. -/
inductive Front where
  | incomplete
  | corrupt
  | frame (size : Nat)
  deriving DecidableEq, Repr

structure Framer (α : Type) where
  front : List α → Front
  frame_bounds : ∀ {l size}, front l = .frame size → 0 < size ∧ size ≤ l.length
  frame_append : ∀ {l size} (more : List α), front l = .frame size →
    front (l ++ more) = .frame size
  corrupt_append : ∀ {l} (more : List α), front l = .corrupt → front (l ++ more) = .corrupt

/-- A stream cut up: its frames, and what no frame could be taken from. -/
structure Cut (α : Type) where
  frames : List (List α)
  rest : List α
  corrupt : Bool
  deriving DecidableEq, Repr

namespace Framer

variable {α : Type} (F : Framer α)

/-- The first `fuel` frames; a stream has no more of them than elements. -/
def cutFrom : Nat → List α → Cut α
  | 0, l => ⟨[], l, false⟩
  | fuel + 1, l =>
      match F.front l with
      | .incomplete => ⟨[], l, false⟩
      | .corrupt => ⟨[], l, true⟩
      | .frame size =>
          let c := cutFrom fuel (l.drop size)
          { c with frames := l.take size :: c.frames }

def cut (l : List α) : Cut α := F.cutFrom (l.length + 1) l

theorem cutFrom_fuel : ∀ {n m : Nat} {l : List α}, l.length < n → l.length < m →
    F.cutFrom n l = F.cutFrom m l
  | n + 1, m + 1, l, hn, hm => by
      rw [cutFrom, cutFrom]
      cases hf : F.front l with
      | incomplete => rfl
      | corrupt => rfl
      | frame size =>
          obtain ⟨hpos, hle⟩ := F.frame_bounds hf
          have hlen : (l.drop size).length < l.length := by rw [List.length_drop]; omega
          dsimp only
          rw [cutFrom_fuel (show (l.drop size).length < n by omega)
            (show (l.drop size).length < m by omega)]

variable {F}

theorem cut_of_incomplete {l : List α} (h : F.front l = .incomplete) :
    F.cut l = ⟨[], l, false⟩ := by
  rw [cut, cutFrom, h]

theorem cut_of_corrupt {l : List α} (h : F.front l = .corrupt) : F.cut l = ⟨[], l, true⟩ := by
  rw [cut, cutFrom, h]

theorem cut_of_frame {l : List α} {size : Nat} (h : F.front l = .frame size) :
    F.cut l =
      { F.cut (l.drop size) with frames := l.take size :: (F.cut (l.drop size)).frames } := by
  obtain ⟨hpos, hle⟩ := F.frame_bounds h
  have hlen : (l.drop size).length < l.length := by rw [List.length_drop]; omega
  rw [cut, cutFrom, h]
  dsimp only
  rw [cut, cutFrom_fuel F hlen (Nat.lt_succ_self _)]

/-- Induction over the frames of a stream. -/
theorem cut_induction {P : List α → Prop} (hincomplete : ∀ l, F.front l = .incomplete → P l)
    (hcorrupt : ∀ l, F.front l = .corrupt → P l)
    (hframe : ∀ l size, F.front l = .frame size → P (l.drop size) → P l) (l : List α) : P l := by
  induction hn : l.length using Nat.strongRecOn generalizing l with
  | _ n ih =>
      cases hf : F.front l with
      | incomplete => exact hincomplete l hf
      | corrupt => exact hcorrupt l hf
      | frame size =>
          obtain ⟨hpos, hle⟩ := F.frame_bounds hf
          refine hframe l size hf (ih (l.drop size).length ?_ _ rfl)
          rw [List.length_drop]
          omega

/-- Nothing is lost and nothing is added. -/
theorem cut_flatten (l : List α) : (F.cut l).frames.flatten ++ (F.cut l).rest = l := by
  induction l using cut_induction (F := F) with
  | hincomplete l h => rw [cut_of_incomplete h]; rfl
  | hcorrupt l h => rw [cut_of_corrupt h]; rfl
  | hframe l size h ih =>
      rw [cut_of_frame h]
      dsimp only
      rw [List.flatten_cons, List.append_assoc, ih, List.take_append_drop]

/-- What is left begins with no frame; the cutting has stopped for a reason. -/
theorem front_rest (l : List α) :
    F.front (F.cut l).rest = if (F.cut l).corrupt then .corrupt else .incomplete := by
  induction l using cut_induction (F := F) with
  | hincomplete l h => rw [cut_of_incomplete h]; exact h
  | hcorrupt l h => rw [cut_of_corrupt h]; exact h
  | hframe l size h ih => rw [cut_of_frame h]; exact ih

/-- Every frame is as long as the front of the stream announced. -/
theorem frame_of_mem {l frame : List α} (h : frame ∈ (F.cut l).frames) :
    ∃ more size, F.front (frame ++ more) = .frame size ∧ frame.length = size := by
  induction l using cut_induction (F := F) with
  | hincomplete l hf => rw [cut_of_incomplete hf] at h; exact absurd h List.not_mem_nil
  | hcorrupt l hf => rw [cut_of_corrupt hf] at h; exact absurd h List.not_mem_nil
  | hframe l size hf ih =>
      rw [cut_of_frame hf] at h
      rcases List.mem_cons.mp h with rfl | h
      · have hle := (F.frame_bounds hf).2
        exact ⟨l.drop size,
          size, by rw [List.take_append_drop, hf], by rw [List.length_take]; omega⟩
      · exact ih h

/-- **Cutting in two goes.** As long as the stream is not corrupt, later is as good as now. -/
theorem cut_append {l : List α} (more : List α) (h : (F.cut l).corrupt = false) :
    F.cut (l ++ more) = { F.cut ((F.cut l).rest ++ more) with
      frames := (F.cut l).frames ++ (F.cut ((F.cut l).rest ++ more)).frames } := by
  induction l using cut_induction (F := F) with
  | hincomplete l hf => rw [cut_of_incomplete hf]; rfl
  | hcorrupt l hf => rw [cut_of_corrupt hf] at h; exact Bool.noConfusion h
  | hframe l size hf ih =>
      have hle := (F.frame_bounds hf).2
      rw [cut_of_frame hf] at h
      rw [cut_of_frame (F.frame_append more hf), cut_of_frame hf,
        List.drop_append_of_le_length hle, List.take_append_of_le_length hle, ih h]
      rfl

/-- **A corrupt stream has no more frames**, whatever arrives after. -/
theorem cut_append_of_corrupt {l : List α} (more : List α) (h : (F.cut l).corrupt = true) :
    F.cut (l ++ more) = { F.cut l with rest := (F.cut l).rest ++ more } := by
  induction l using cut_induction (F := F) with
  | hincomplete l hf => rw [cut_of_incomplete hf] at h; exact Bool.noConfusion h
  | hcorrupt l hf => rw [cut_of_corrupt hf, cut_of_corrupt (F.corrupt_append more hf)]
  | hframe l size hf ih =>
      have hle := (F.frame_bounds hf).2
      rw [cut_of_frame hf] at h
      rw [cut_of_frame (F.frame_append more hf), cut_of_frame hf,
        List.drop_append_of_le_length hle, List.take_append_of_le_length hle, ih h]

/-- A stream that is a frame and more. -/
theorem cut_frame_append {frame : List α} (more : List α)
    (h : F.front frame = .frame frame.length) :
    F.cut (frame ++ more) = { F.cut more with frames := frame :: (F.cut more).frames } := by
  rw [cut_of_frame (F.frame_append more h), List.drop_left, List.take_left]

/-- **A stream of whole frames is cut into exactly these frames.** -/
theorem cut_frames : ∀ {frames : List (List α)} (more : List α),
    (∀ frame ∈ frames, F.front frame = .frame frame.length) →
    F.cut (frames.flatten ++ more) = { F.cut more with frames := frames ++ (F.cut more).frames }
  | [], more, _ => rfl
  | frame :: frames, more, h => by
      rw [List.flatten_cons, List.append_assoc,
        cut_frame_append _ (h frame (List.mem_cons_self ..)),
        cut_frames more fun f hf => h f (List.mem_cons_of_mem _ hf)]
      rfl

end Framer

/-! ## Frames that say how long they are -/

/-- A header of a fixed length with the length of its frame in it. -/
structure Header (α : Type) where
  length : Nat
  pos : 0 < length
  announced : List α → Option Nat
  isSome : ∀ {l}, length ≤ l.length → ∃ size, announced l = some size
  append : ∀ {l size} (more : List α), announced l = some size → announced (l ++ more) = some size

namespace Header

variable {α : Type} (H : Header α) (limit : Nat)

/-- No frame is shorter than its header or longer than `limit`. -/
def front (l : List α) : Front :=
  if l.length < H.length then .incomplete
  else
    match H.announced l with
    | none => .incomplete
    | some size =>
        if size < H.length ∨ size > limit then .corrupt
        else if l.length < size then .incomplete
        else .frame size

variable {limit}

/-- The three answers, with what each of them says about the stream. -/
theorem front_cases (l : List α) :
    (H.front limit l = .incomplete ∧ (l.length < H.length ∨
      ∃ size, H.announced l = some size ∧ H.length ≤ size ∧ size ≤ limit ∧ l.length < size)) ∨
    (H.front limit l = .corrupt ∧ H.length ≤ l.length ∧
      ∃ size, H.announced l = some size ∧ (size < H.length ∨ size > limit)) ∨
    ∃ size, H.front limit l = .frame size ∧ H.announced l = some size ∧ H.length ≤ size ∧
      size ≤ limit ∧ size ≤ l.length := by
  unfold front
  by_cases hlen : l.length < H.length
  · exact .inl ⟨if_pos hlen, .inl hlen⟩
  · obtain ⟨size, hsize⟩ := H.isSome (Nat.le_of_not_lt hlen)
    rw [if_neg hlen, hsize]
    dsimp only
    by_cases hbad : size < H.length ∨ size > limit
    · exact .inr (.inl ⟨if_pos hbad, Nat.le_of_not_lt hlen, size, rfl, hbad⟩)
    · rw [if_neg hbad]
      by_cases hshort : l.length < size
      · exact .inl ⟨if_pos hshort, .inr ⟨size, rfl, by omega, by omega, hshort⟩⟩
      · exact .inr (.inr ⟨size, if_neg hshort, rfl, by omega, by omega, by omega⟩)

theorem front_of_announced {l : List α} {size : Nat} (h : H.announced l = some size)
    (hmin : H.length ≤ size) (hmax : size ≤ limit) (hle : size ≤ l.length) :
    H.front limit l = .frame size := by
  rw [front, if_neg (by omega), h]
  dsimp only
  rw [if_neg (by omega), if_neg (by omega)]

variable (limit)

def framer : Framer α where
  front := H.front limit
  frame_bounds := by
    intro l size h
    rcases H.front_cases l with ⟨hc, _⟩ | ⟨hc, _⟩ | ⟨size', hc, _, hmin, _, hle⟩
    · exact Front.noConfusion (h.symm.trans hc)
    · exact Front.noConfusion (h.symm.trans hc)
    · rw [h] at hc
      injection hc with hc
      subst hc
      exact ⟨Nat.lt_of_lt_of_le H.pos hmin, hle⟩
  frame_append := by
    intro l size more h
    rcases H.front_cases l with ⟨hc, _⟩ | ⟨hc, _⟩ | ⟨size', hc, hheader, hmin, hmax, hle⟩
    · exact Front.noConfusion (h.symm.trans hc)
    · exact Front.noConfusion (h.symm.trans hc)
    · rw [h] at hc
      injection hc with hc
      subst hc
      have hlen : (l ++ more).length = l.length + more.length := List.length_append
      exact H.front_of_announced (H.append more hheader) hmin hmax (by omega)
  corrupt_append := by
    intro l more h
    rcases H.front_cases l with ⟨hc, _⟩ | ⟨_, hlen, size, hheader, hbad⟩ | ⟨size', hc, _⟩
    · exact Front.noConfusion (h.symm.trans hc)
    · have hlen' : (l ++ more).length = l.length + more.length := List.length_append
      rw [front, if_neg (by omega), H.append more hheader]
      dsimp only
      rw [if_pos hbad]
    · exact Front.noConfusion (h.symm.trans hc)

variable {limit}

/-- **What a frame of a stream is.** -/
theorem frame_of_mem {l frame : List α} (h : frame ∈ ((H.framer limit).cut l).frames) :
    H.announced frame = some frame.length ∧ H.length ≤ frame.length ∧ frame.length ≤ limit := by
  obtain ⟨more, size, hfront, hlen⟩ := Framer.frame_of_mem h
  rcases @front_cases _ H limit (frame ++ more) with
    ⟨hc, _⟩ | ⟨hc, _⟩ | ⟨size', hc, hheader, hmin, hmax, _⟩
  · exact Front.noConfusion (hfront.symm.trans hc)
  · exact Front.noConfusion (hfront.symm.trans hc)
  · have hsame : size = size' := Front.frame.inj (hfront.symm.trans hc)
    obtain ⟨own, hown⟩ := H.isSome (show H.length ≤ frame.length by omega)
    have hagree := (H.append more hown).symm.trans hheader
    injection hagree with hagree
    exact ⟨by rw [hown]; congr 1; omega, by omega, by omega⟩

/-- What is left over is shorter than the longest frame, unless the stream is corrupt. -/
theorem rest_lt {l : List α} (hlimit : H.length ≤ limit)
    (h : ((H.framer limit).cut l).corrupt = false) :
    ((H.framer limit).cut l).rest.length < limit := by
  have hfront := Framer.front_rest (F := H.framer limit) l
  rw [h] at hfront
  rcases @front_cases _ H limit ((H.framer limit).cut l).rest
    with ⟨_, hlen⟩ | ⟨hc, _⟩ | ⟨size, hc, _⟩
  · rcases hlen with hlen | ⟨size, _, _, hmax, hlen⟩
    · exact Nat.lt_of_lt_of_le hlen hlimit
    · omega
  · exact Front.noConfusion (hfront.symm.trans hc)
  · exact Front.noConfusion (hfront.symm.trans hc)

/-- **A stream is corrupt if what is left over begins with a size out of range.** -/
theorem corrupt_iff {l : List α} : ((H.framer limit).cut l).corrupt = true ↔
    H.length ≤ ((H.framer limit).cut l).rest.length ∧ ∃ size,
      H.announced ((H.framer limit).cut l).rest = some size ∧
      (size < H.length ∨ size > limit) := by
  have hfront := Framer.front_rest (F := H.framer limit) l
  cases hc : ((H.framer limit).cut l).corrupt with
  | true =>
      refine ⟨fun _ => ?_, fun _ => rfl⟩
      rw [hc] at hfront
      rcases @front_cases _ H limit ((H.framer limit).cut l).rest with
        ⟨hf, _⟩ | ⟨_, hlen, hbad⟩ | ⟨_, hf, _⟩
      · exact Front.noConfusion (hfront.symm.trans hf)
      · exact ⟨hlen, hbad⟩
      · exact Front.noConfusion (hfront.symm.trans hf)
  | false =>
      refine ⟨fun h => Bool.noConfusion h, fun ⟨hmin, size, hheader, hbad⟩ => ?_⟩
      rw [hc] at hfront
      rcases @front_cases _ H limit ((H.framer limit).cut l).rest
        with ⟨_, hwhy⟩ | ⟨hf, _⟩ | ⟨_, hf, _⟩
      · rcases hwhy with hshort | ⟨size', hheader', hmin', hmax', _⟩
        · omega
        · rw [hheader] at hheader'
          injection hheader' with hsame
          omega
      · exact Front.noConfusion (hfront.symm.trans hf)
      · exact Front.noConfusion (hfront.symm.trans hf)

end Header

end Framing
