import Mathlib.Data.List.Perm.Basic
import PageStream.Proofs.Verdict

namespace PageStream

-- Behind its end an image is zero.
def byteAt (image : Bytes) (position : Nat) : UInt8 := image[position]?.getD 0

theorem ext_byteAt {one two : Bytes} (length : one.length = two.length)
    (same : ∀ position, byteAt one position = byteAt two position) : one = two := by
  apply List.ext_getElem length
  intro position inside inside'
  have here := same position
  simpa only [byteAt, List.getElem?_eq_getElem inside, List.getElem?_eq_getElem inside',
    Option.getD_some] using here

theorem byteAt_grow (image : Bytes) (length position : Nat) :
    byteAt (grow image length) position = byteAt image position := by
  unfold byteAt
  rw [grow_getElem?]
  by_cases inside : position < image.length
  · rw [if_pos inside]
  · rw [if_neg inside, List.getElem?_eq_none (Nat.le_of_not_lt inside)]
    split <;> rfl

theorem byteAt_overwrite (image : Bytes) (offset : Nat) (data : Bytes) (position : Nat) :
    byteAt (overwrite image offset data) position =
      if offset ≤ position ∧ position < offset + data.length then byteAt data (position - offset)
      else byteAt image position := by
  by_cases before : position < offset
  · rw [if_neg (by omega), byteAt, overwrite_getElem?, if_pos before]
    exact byteAt_grow image offset position
  · by_cases inside : position < offset + data.length
    · rw [if_pos ⟨by omega, inside⟩, byteAt, overwrite_getElem?, if_neg before, if_pos inside,
        byteAt]
    · rw [if_neg (fun both => inside both.2), byteAt, overwrite_getElem?, if_neg before,
        if_neg inside, byteAt]

theorem byteAt_window (image : Bytes) (start : Nat) {count position : Nat}
    (inside : position < count) :
    byteAt ((image.drop start).take count) position = byteAt image (start + position) := by
  rw [byteAt, List.getElem?_take, if_pos inside, List.getElem?_drop, byteAt]

theorem byteAt_end {image : Bytes} {position : Nat} (behind : image.length ≤ position) :
    byteAt image position = 0 := by
  rw [byteAt, List.getElem?_eq_none behind, Option.getD_none]

theorem overwrite_shifted (front image : Bytes) (offset : Nat) (data : Bytes) :
    overwrite (front ++ image) (front.length + offset) data =
      front ++ overwrite image offset data := by
  rw [overwrite, overwrite, List.take_length_add_append, Nat.add_assoc,
    List.drop_length_add_append, List.length_append, Nat.add_sub_add_left, List.append_assoc]

namespace Record

def paint (base : Nat) (image : Bytes) (records : List Record) : Bytes :=
  records.foldl (fun image record => overwrite image (base + record.header.offset) record.payload)
    image

@[simp] theorem paint_cons (base : Nat) (image : Bytes) (record : Record) (rest : List Record) :
    paint base image (record :: rest) =
      paint base (overwrite image (base + record.header.offset) record.payload) rest := rfl

theorem paint_length (base : Nat) (image : Bytes) (records : List Record) :
    (paint base image records).length = reach base image.length records := by
  induction records generalizing image with
  | nil => rfl
  | cons record rest ih =>
    rw [paint_cons, ih, overwrite_length, record.payload_length]
    rfl

theorem paint_shifted (front : Bytes) (base : Nat) (image : Bytes) (records : List Record) :
    paint (front.length + base) (front ++ image) records = front ++ paint base image records := by
  induction records generalizing image with
  | nil => rfl
  | cons record rest ih => rw [paint_cons, paint_cons, Nat.add_assoc, overwrite_shifted, ih]

def covers (base position : Nat) (record : Record) : Bool :=
  base + record.header.offset ≤ position && position < base + record.header.offset + pageSize

theorem covers_iff {record : Record} (aligned : record.aligned = true) (base position : Nat) :
    record.covers base position = true ↔
      base ≤ position ∧ record.header.page = (position - base) / pageSize := by
  have place := (page_iff aligned record.header.page).mp rfl
  have size : pageSize = 4096 := rfl
  simp only [covers, Bool.and_eq_true, decide_eq_true_eq]
  rw [size] at place ⊢
  omega

-- The last page that covers a position decides about it.
theorem byteAt_paint (base : Nat) (image : Bytes) (records : List Record) (position : Nat) :
    byteAt (paint base image records) position =
      match (records.filter (·.covers base position)).getLast? with
      | some record => byteAt record.payload (position - (base + record.header.offset))
      | none => byteAt image position := by
  induction records generalizing image with
  | nil => rfl
  | cons record rest ih =>
    have size := record.payload_length
    rw [paint_cons, ih, byteAt_overwrite, size]
    cases covered : record.covers base position with
    | true =>
      rw [List.filter_cons_of_pos covered, List.getLast?_cons]
      have inside : base + record.header.offset ≤ position ∧
          position < base + record.header.offset + pageSize := by
        simpa only [covers, Bool.and_eq_true, decide_eq_true_eq] using covered
      rw [if_pos inside]
      cases (rest.filter (·.covers base position)).getLast? with
      | none => rfl
      | some last => rfl
    | false =>
      have outside : ¬ (base + record.header.offset ≤ position ∧
          position < base + record.header.offset + pageSize) := by
        simpa only [covers, ← Bool.not_eq_true, Bool.and_eq_true, decide_eq_true_eq] using covered
      rw [List.filter_cons_of_neg (by simp [covered]), if_neg outside]

theorem filter_covers {records : List Record} (aligned : ∀ record ∈ records, record.aligned = true)
    (base position : Nat) : records.filter (·.covers base position) =
      if base ≤ position then records.filter (·.header.page = (position - base) / pageSize)
      else [] := by
  by_cases behind : base ≤ position
  · rw [if_pos behind]
    apply List.filter_congr
    intro record member
    rw [Bool.eq_iff_iff, covers_iff (aligned record member), decide_eq_true_eq]
    exact and_iff_right behind
  · rw [if_neg behind, List.filter_eq_nil_iff]
    intro record member covered
    exact behind ((covers_iff (aligned record member) base position).mp covered).1

theorem paint_page {records : List Record} (aligned : ∀ record ∈ records, record.aligned = true)
    {page : Nat} {record : Record} (last : lastOf? records page = some record) (base : Nat)
    (image : Bytes) :
    ((paint base image records).drop (base + page * pageSize)).take pageSize = record.payload := by
  have size := record.payload_length
  have last' : lastAt? records (page * pageSize) = some record := lastOf?_eq aligned page ▸ last
  obtain ⟨member, place⟩ := lastAt?_some last'
  have held := page_le_reach member base image.length
  rw [place, ← paint_length] at held
  have whole : (((paint base image records).drop (base + page * pageSize)).take pageSize).length =
      pageSize := by
    rw [List.length_take, List.length_drop]
    omega
  apply ext_byteAt (whole.trans size.symm)
  intro position
  by_cases inside : position < pageSize
  · have here : (base + page * pageSize + position - base) / pageSize = page := by
      have numbers : pageSize = 4096 := rfl
      rw [numbers] at inside ⊢
      omega
    rw [byteAt_window _ _ inside, byteAt_paint, filter_covers aligned, if_pos (by omega), here,
      ← lastOf?, last]
    show byteAt record.payload (base + page * pageSize + position - (base + record.header.offset)) =
      byteAt record.payload position
    rw [place, Nat.add_sub_cancel_left]
  · rw [byteAt_end (by omega), byteAt_end (by omega)]

-- The same records in another order, those of each page in the same order as before.
structure Reordered (one two : List Record) : Prop where
  perm : one.Perm two
  pages : ∀ page, one.filter (·.header.page = page) = two.filter (·.header.page = page)

theorem reach_perm {one two : List Record} (perm : one.Perm two) (base length : Nat) :
    reach base length one = reach base length two := by
  have commutes : RightCommutative (max : Nat → Nat → Nat) := by
    constructor
    intro length first second
    exact Nat.max_right_comm length first second
  unfold reach
  exact (perm.map fun record => base + record.header.offset + pageSize).foldl_eq (f := max) length

theorem Reordered.paint {one two : List Record} (reordered : Reordered one two)
    (aligned : ∀ record ∈ one, record.aligned = true) (base : Nat) (image : Bytes) :
    Record.paint base image one = Record.paint base image two := by
  have aligned' : ∀ record ∈ two, record.aligned = true :=
    fun record member => aligned record (reordered.perm.mem_iff.mpr member)
  apply ext_byteAt
  · rw [paint_length, paint_length, reach_perm reordered.perm]
  · intro position
    rw [byteAt_paint, byteAt_paint, filter_covers aligned, filter_covers aligned',
      reordered.pages]

end Record

namespace ImageSink

theorem memory_paint (base : Nat) (image : Bytes) (records : List Record) :
    after (MemoryImage.mk image) (records.map fun record => (record.step base).call) =
      ⟨Record.paint base image records⟩ := by
  induction records generalizing image with
  | nil => rfl
  | cons record rest ih =>
    rw [List.map_cons, after_cons]
    exact ih _

end ImageSink

theorem Opened.memory_painted (opened : Opened) (image : Bytes) {last : List ImageCall}
    (kind : last = [] ∨ last = [.flush]) :
    ImageSink.after (MemoryImage.mk image) (opened.calls ++ last) =
      ⟨Record.paint opened.base (opened.announced image) opened.applied⟩ := by
  have still (image : MemoryImage) : ImageSink.after image last = image := by
    rcases kind with rfl | rfl <;> rfl
  rw [ImageSink.after_append, still, calls, List.map_append, ImageSink.after_append,
    memory_announcing, writes, List.map_map]
  exact ImageSink.memory_paint opened.base _ opened.applied

namespace Holding

variable {σ : Type} [ImageSink σ] {sink : σ} {view : σ → Bytes}

theorem pages (holding : Holding sink view) (base : Nat) {records : List Record}
    (accepts : ImageSink.Accepts sink (records.map fun record => (record.step base).call)) :
    view (ImageSink.after sink (records.map fun record => (record.step base).call)) =
      Record.paint base (view sink) records := by
  have solid : ∀ call ∈ records.map (fun record => (record.step base).call), call.Solid := by
    intro call member
    obtain ⟨record, -, rfl⟩ := List.mem_map.mp member
    exact record.step_solid base
  rw [holding.holds _ accepts solid, ImageSink.memory_paint]

-- Whatever sink holds the image, a run paints its pages over what it announced.
theorem painted (holding : Holding sink view) (opened : Opened) {last : List ImageCall}
    (kind : last = [] ∨ last = [.flush])
    (accepts : ImageSink.Accepts sink (opened.calls ++ last)) :
    view (ImageSink.after sink (opened.calls ++ last)) =
      Record.paint opened.base (opened.announced (view sink)) opened.applied := by
  rw [holding.holds _ accepts (opened.all_solid kind), opened.memory_painted _ kind]

end Holding

end PageStream
