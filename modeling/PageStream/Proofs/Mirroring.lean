import PageStream.Proofs.Directories
import PageStream.Proofs.Painting

namespace PageStream

namespace ImageCall

-- How far a write of nothing reaches.
def hollow : ImageCall → Nat
  | .write offset [] => offset
  | _ => 0

def hollows (calls : List ImageCall) : Nat :=
  calls.foldl (fun reach call => max reach call.hollow) 0

theorem hollows_concat (calls : List ImageCall) (call : ImageCall) :
    hollows (calls ++ [call]) = max (hollows calls) call.hollow := List.foldl_concat _ _ _ _

end ImageCall

theorem eq_grow {one two : Bytes} {length : Nat} (size : one.length = max two.length length)
    (same : ∀ position, byteAt one position = byteAt two position) : one = grow two length := by
  apply ext_byteAt
  · exact size.trans (grow_length two length).symm
  · intro position
    exact (same position).trans (byteAt_grow two length position).symm

theorem grow_same {bytes : Bytes} {length : Nat} :
    grow bytes length = bytes ↔ length ≤ bytes.length := by
  constructor
  · intro same
    have size := congrArg List.length same
    rw [grow_length] at size
    omega
  · intro enough
    symm
    exact eq_grow (by omega) fun _ => rfl

namespace ImageSink

-- What one call does to an image in memory that is a file with zeros behind it.
theorem mirror_step {content : Bytes} (reach : Nat) {call : ImageCall}
    (taken : (perform (FileImage.mk content) call).2 = none) :
    (perform (MemoryImage.mk (grow content reach)) call).1.bytes =
      grow (perform (FileImage.mk content) call).1.content (max reach call.hollow) := by
  cases call with
  | flush =>
    show grow content reach = grow content (max reach 0)
    rw [Nat.max_zero]
  | resize length =>
    rw [file_resized taken]
    show grow (grow content reach) length = grow (grow content length) (max reach 0)
    apply eq_grow
    · simp only [grow_length]
      omega
    · intro position
      simp only [byteAt_grow]
  | write offset data =>
    rw [file_written taken]
    cases data with
    | nil =>
      show overwrite (grow content reach) offset [] = grow content (max reach offset)
      apply eq_grow
      · simp only [overwrite_length, grow_length, List.length_nil]
        omega
      · intro position
        rw [byteAt_overwrite, if_neg (by simp only [List.length_nil]; omega), byteAt_grow]
    | cons byte data =>
      show overwrite (grow content reach) offset (byte :: data) =
        grow (overwrite content offset (byte :: data)) (max reach 0)
      apply eq_grow
      · simp only [overwrite_length, grow_length]
        omega
      · intro position
        simp only [byteAt_overwrite, byteAt_grow]

theorem mirror_run {content : Bytes} (reach : Nat) {calls : List ImageCall}
    (accepts : Accepts (FileImage.mk content) calls) :
    (after (MemoryImage.mk (grow content reach)) calls).bytes =
      grow (after (FileImage.mk content) calls).content
        (calls.foldl (fun reach call => max reach call.hollow) reach) := by
  induction calls generalizing content reach with
  | nil => rfl
  | cons call rest ih =>
    have step : (perform (MemoryImage.mk (grow content reach)) call).1 =
        ⟨grow (perform (FileImage.mk content) call).1.content (max reach call.hollow)⟩ :=
      congrArg MemoryImage.mk (mirror_step reach accepts.1)
    rw [after_cons, step]
    exact ih _ accepts.2

theorem mirrored {calls : List ImageCall} (accepts : Accepts (FileImage.mk []) calls) :
    (after (MemoryImage.mk []) calls).bytes =
      grow (after (FileImage.mk []) calls).content (ImageCall.hollows calls) :=
  mirror_run 0 accepts

theorem mirrored_same {calls : List ImageCall} (accepts : Accepts (FileImage.mk []) calls) :
    (after (FileImage.mk []) calls).content = (after (MemoryImage.mk []) calls).bytes ↔
      ImageCall.hollows calls ≤ (after (FileImage.mk []) calls).content.length := by
  rw [mirrored accepts, eq_comm]
  exact grow_same

theorem file_hollow (content : Bytes) (offset : Nat) :
    (perform (FileImage.mk content) (.write offset [])).1 = ⟨content⟩ := by
  simp only [perform, if_true]
  split
  · rfl
  · rfl

theorem file_longer (content : Bytes) (call : ImageCall) :
    content.length ≤ (perform (FileImage.mk content) call).1.content.length := by
  cases call with
  | flush => exact Nat.le_refl _
  | resize length =>
    simp only [perform]
    split
    · exact Nat.le_refl _
    · simp only [grow_length]
      omega
  | write offset data =>
    simp only [perform]
    split
    · exact Nat.le_refl _
    · split
      · exact Nat.le_refl _
      · simp only [overwrite_length]
        omega

theorem file_concat (calls : List ImageCall) (call : ImageCall) :
    after (FileImage.mk []) (calls ++ [call]) =
      (perform (after (FileImage.mk []) calls) call).1 := after_append _ _ _

-- No write of nothing lies behind the end of the file that it is made to.
def Within (calls : List ImageCall) : Prop :=
  ∀ count offset, calls[count]? = some (.write offset []) →
    offset ≤ (after (FileImage.mk []) (calls.take count)).content.length

theorem Within.hollows {calls : List ImageCall} (within : Within calls) (count : Nat) :
    ImageCall.hollows (calls.take count) ≤
      (after (FileImage.mk []) (calls.take count)).content.length := by
  induction count with
  | zero => exact Nat.zero_le _
  | succ count ih =>
    rw [List.take_add_one]
    cases made : calls[count]? with
    | none => simpa only [Option.toList_none, List.append_nil] using ih
    | some call =>
      have longer := file_longer (after (FileImage.mk []) (calls.take count)).content call
      rw [Option.toList_some, ImageCall.hollows_concat, file_concat]
      apply Nat.max_le.mpr
      refine ⟨Nat.le_trans ih longer, ?_⟩
      cases call with
      | flush => exact Nat.zero_le _
      | resize length => exact Nat.zero_le _
      | write offset data =>
        cases data with
        | nil => exact Nat.le_trans (within count offset made) longer
        | cons byte data => exact Nat.zero_le _

theorem within_iff {calls : List ImageCall} (accepts : Accepts (FileImage.mk []) calls) :
    (∀ count, (after (FileImage.mk []) (calls.take count)).content =
      (after (MemoryImage.mk []) (calls.take count)).bytes) ↔ Within calls := by
  constructor
  · intro same count offset made
    have next := (mirrored_same (accepts.take (count + 1))).mp (same (count + 1))
    rw [List.take_add_one, made, Option.toList_some, ImageCall.hollows_concat, file_concat] at next
    have still := file_hollow (after (FileImage.mk []) (calls.take count)).content offset
    rw [still] at next
    exact Nat.le_trans (Nat.le_max_right _ _) next
  · intro within count
    exact (mirrored_same (accepts.take count)).mpr (within.hollows count)

-- A file that was just created, over whatever was there, beside a new image in memory, while both
-- take the calls.
theorem createImage_mirrors {directory created : Directory} {path : String} {place : Place}
    (made : directory.createImage path = .ok (place, created)) (calls : List ImageCall) :
    let file (calls : List ImageCall) : Bytes :=
      (after (PlacedImage.mk created place) calls).directory.contentAt place
    let memory (calls : List ImageCall) : Bytes := (after (MemoryImage.mk []) calls).bytes
    Faultless (MemoryImage.mk []) ∧
      ((∀ call ∈ calls, call.Fits) → Accepts (PlacedImage.mk created place) calls) ∧
      (Accepts (PlacedImage.mk created place) calls →
        memory calls = grow (file calls) (ImageCall.hollows calls) ∧
        ((∀ count, file (calls.take count) = memory (calls.take count)) ↔
          ∀ count offset, calls[count]? = some (.write offset []) →
            offset ≤ (file (calls.take count)).length)) := by
  intro file memory
  obtain ⟨below, empty⟩ := Directory.createImage_ok made
  have content (calls : List ImageCall) : file calls = (after (FileImage.mk []) calls).content := by
    have placed := (placed_after below created calls).2
    rwa [empty] at placed
  refine ⟨memory_faultless _, (Holding.placed below created).accepts, fun accepts => ?_⟩
  rw [placed_accepts below, empty] at accepts
  refine ⟨?_, ?_⟩
  · rw [content]
    exact mirrored accepts
  · simp only [content]
    exact within_iff accepts

-- Writes of nothing at the end of the file and before it.
theorem createImage_mirrors_inside :
    let directory : Directory := ⟨[(["image.bin"], .file [7, 7, 7])], []⟩
    let calls : List ImageCall := [.resize 4, .write 2 [1, 2, 3], .write 5 [], .write 7 [9],
      .write 3 [], .flush]
    ∃ place created, directory.createImage "image.bin" = .ok (place, created) ∧
      (∀ count, (after (PlacedImage.mk created place) (calls.take count)).directory.contentAt place =
        (after (MemoryImage.mk []) (calls.take count)).bytes) ∧
      (after (MemoryImage.mk []) calls).bytes = [0, 0, 1, 2, 3, 0, 0, 9] := by
  intro directory calls
  have made := Directory.createImage_anew [7, 7, 7]
  obtain ⟨-, taken, mirrors⟩ := createImage_mirrors made calls
  obtain ⟨-, within⟩ := mirrors (taken (by decide))
  refine ⟨_, _, made, within.mpr ?_, by decide⟩
  intro count offset here
  match count with
  | 2 | 4 =>
    cases here
    decide
  | 0 | 1 | 3 | 5 | _ + 6 => cases here

-- Behind the end it makes ten zeros in memory, and nothing in the file.
theorem createImage_mirrors_behind :
    let directory : Directory := ⟨[(["image.bin"], .file [7, 7, 7])], []⟩
    let calls : List ImageCall := [.write 10 []]
    ∃ place created, directory.createImage "image.bin" = .ok (place, created) ∧
      (after (PlacedImage.mk created place) calls).directory.contentAt place = [] ∧
      (after (MemoryImage.mk []) calls).bytes = List.replicate 10 0 ∧
      (after (PlacedImage.mk created place) calls).directory.contentAt place ≠
        (after (MemoryImage.mk []) calls).bytes := by
  intro directory calls
  exact ⟨_, _, Directory.createImage_anew [7, 7, 7], rfl, rfl, by decide⟩

end ImageSink

end PageStream
