import PageStream.Directory
import PageStream.Proofs.Calls

namespace PageStream

theorem grow_getElem? (bytes : Bytes) (length position : Nat) :
    (grow bytes length)[position]? =
      if position < bytes.length then bytes[position]?
      else if position < length then some 0 else none := by
  rw [grow, List.getElem?_append]
  split
  · rfl
  · rw [List.getElem?_replicate]
    split <;> split <;> first | rfl | omega

theorem overwrite_eq (bytes : Bytes) (offset : Nat) (data : Bytes) : overwrite bytes offset data =
    (grow bytes offset).take offset ++ (data ++ bytes.drop (offset + data.length)) := by
  rw [overwrite, grow, List.take_append, List.take_replicate, Nat.min_self, List.append_assoc]

theorem grow_take_length (bytes : Bytes) (offset : Nat) :
    ((grow bytes offset).take offset).length = offset := by
  rw [List.length_take, grow_length]
  omega

theorem overwrite_getElem? (bytes : Bytes) (offset : Nat) (data : Bytes) (position : Nat) :
    (overwrite bytes offset data)[position]? =
      if position < offset then (grow bytes offset)[position]?
      else if position < offset + data.length then data[position - offset]?
      else bytes[position]? := by
  rw [overwrite_eq, List.getElem?_append, grow_take_length]
  split
  · rename_i before
    rw [List.getElem?_take_of_lt before]
  · rename_i behind
    rw [List.getElem?_append]
    have same : position - offset < data.length ↔ position < offset + data.length := by omega
    simp only [same]
    split
    · rfl
    · rw [List.getElem?_drop]
      congr 1
      omega

theorem overwrite_inside (bytes : Bytes) (offset : Nat) (data : Bytes) :
    ((overwrite bytes offset data).drop offset).take data.length = data := by
  rw [overwrite_eq, List.drop_left' (grow_take_length bytes offset), List.take_left]

theorem overwrite_apart {bytes : Bytes} {offset start count : Nat} {data : Bytes}
    (held : start + count ≤ bytes.length)
    (apart : start + count ≤ offset ∨ offset + data.length ≤ start) :
    ((overwrite bytes offset data).drop start).take count = (bytes.drop start).take count := by
  apply List.ext_getElem?
  intro position
  rw [List.getElem?_take, List.getElem?_take]
  split
  · rename_i inside
    rw [List.getElem?_drop, List.getElem?_drop, overwrite_getElem?]
    split
    · rw [grow_getElem?, if_pos (by omega)]
    · rw [if_neg (by omega)]
  · rfl

namespace ImageCall

-- Not a write of nothing.
def Solid : ImageCall → Prop
  | .write _ data => data ≠ []
  | _ => True

-- Not beyond what a file can be.
def Fits : ImageCall → Prop
  | .resize length => length < fileBound
  | .write offset data => offset + data.length < fileBound
  | .flush => True

instance (call : ImageCall) : Decidable call.Fits :=
  match call with
  | .resize length => inferInstanceAs (Decidable (length < fileBound))
  | .write offset data => inferInstanceAs (Decidable (offset + data.length < fileBound))
  | .flush => inferInstanceAs (Decidable True)

end ImageCall

namespace Directory

theorem lookup_replaced {place : Place} {entry : Entry} {entries : List (Place × Entry)}
    (listed : entries.any (·.1 == place) = true) :
    (entries.map fun (p, e) => if p = place then (p, entry) else (p, e)).lookup place =
      some entry := by
  induction entries with
  | nil => cases listed
  | cons first rest ih =>
    obtain ⟨p, e⟩ := first
    by_cases same : p = place
    · subst same
      simp
    · have later : rest.any (·.1 == place) = true := by
        simpa [same] using listed
      have other : (place == p) = false := by simpa using Ne.symm same
      simp only [List.map_cons, if_neg same, List.lookup_cons, other]
      exact ih later

theorem lookup_unlisted {place : Place} {entry : Entry} {entries : List (Place × Entry)}
    (unlisted : ¬ entries.any (·.1 == place) = true) :
    (entries ++ [(place, entry)]).lookup place = some entry := by
  induction entries with
  | nil => simp
  | cons first rest ih =>
    obtain ⟨p, e⟩ := first
    simp only [List.any_cons, Bool.or_eq_true, beq_iff_eq, not_or] at unlisted
    have other : (place == p) = false := by simpa using Ne.symm unlisted.1
    simp only [List.cons_append, List.lookup_cons, other]
    exact ih (by simpa using unlisted.2)

theorem put_lookup (directory : Directory) (place : Place) (entry : Entry) :
    (directory.put place entry).entries.lookup place = some entry := by
  unfold put
  split
  · rename_i listed
    exact lookup_replaced listed
  · rename_i unlisted
    exact lookup_unlisted unlisted

theorem contentAt_put {place : Place} (below : isAbove place = false) (directory : Directory)
    (content : Bytes) : (directory.put place (.file content)).contentAt place = content := by
  simp only [contentAt, entry?, below, put_lookup, Bool.false_eq_true, if_false]

theorem creationPlace_below {directory : Directory} {path : String} {place : Place}
    (found : directory.creationPlace path = .ok place) : isAbove place = false := by
  unfold creationPlace at found
  split at found
  · cases found
  · rename_i leads asDirectory resolved
    cases above : isAbove leads with
    | true => simp only [above, entry?, if_true, reduceCtorEq] at found
    | false =>
      split at found
      · cases found
      · split at found <;> cases found
        exact above
      · split at found <;> cases found
        exact above

-- A created image is empty, whatever was there before.
theorem createImage_ok {directory next : Directory} {path : String} {place : Place}
    (created : directory.createImage path = .ok (place, next)) :
    isAbove place = false ∧ next.contentAt place = [] := by
  unfold createImage at created
  split at created
  · cases created
  · rename_i found
    split at created
    · cases created
    · cases created
      have below := creationPlace_below found
      exact ⟨below, contentAt_put below directory []⟩

end Directory

namespace ImageSink

-- A file takes a call that fits, and does with it what an image in memory does.
theorem file_takes (image : FileImage) {call : ImageCall} (fits : call.Fits) :
    (perform image call).2 = none := by
  cases call with
  | flush => rfl
  | resize length =>
    have below : ¬ fileBound ≤ length := Nat.not_le.mpr fits
    simp only [perform, below, and_false, if_false]
  | write offset data =>
    have below : ¬ fileBound ≤ offset + data.length := Nat.not_le.mpr fits
    simp only [perform, below, if_false]
    split <;> rfl

theorem file_resized {content : Bytes} {length : Nat}
    (taken : (perform (FileImage.mk content) (.resize length)).2 = none) :
    (perform (FileImage.mk content) (.resize length)).1 = ⟨grow content length⟩ := by
  simp only [perform] at taken ⊢
  split at taken
  · cases taken
  · rename_i inside
    rw [if_neg inside]

theorem file_written {content : Bytes} {offset : Nat} {data : Bytes}
    (taken : (perform (FileImage.mk content) (.write offset data)).2 = none) :
    (perform (FileImage.mk content) (.write offset data)).1 =
      ⟨if data = [] then content else overwrite content offset data⟩ := by
  simp only [perform] at taken ⊢
  split at taken
  · cases taken
  · rename_i inside
    rw [if_neg inside]
    split
    · rfl
    · rfl

theorem file_performs {bytes : Bytes} {call : ImageCall} (solid : call.Solid)
    (taken : (perform (FileImage.mk bytes) call).2 = none) :
    (perform (FileImage.mk bytes) call).1 = ⟨(perform (MemoryImage.mk bytes) call).1.bytes⟩ := by
  cases call with
  | flush => rfl
  | resize length => exact file_resized taken
  | write offset data => rw [file_written taken, if_neg solid]; rfl

theorem file_after {bytes : Bytes} {calls : List ImageCall}
    (accepts : Accepts (FileImage.mk bytes) calls) (solid : ∀ call ∈ calls, call.Solid) :
    (after (FileImage.mk bytes) calls).content = (after (MemoryImage.mk bytes) calls).bytes := by
  induction calls generalizing bytes with
  | nil => rfl
  | cons call rest ih =>
    have next := file_performs (solid call List.mem_cons_self) accepts.1
    have later := accepts.2
    rw [next] at later
    rw [after_cons, after_cons, next]
    exact ih later fun call member => solid call (List.mem_cons_of_mem _ member)

theorem placed_after {place : Place} (below : isAbove place = false) (directory : Directory)
    (calls : List ImageCall) :
    (after (PlacedImage.mk directory place) calls).place = place ∧
      (after (PlacedImage.mk directory place) calls).directory.contentAt place =
        (after (FileImage.mk (directory.contentAt place)) calls).content := by
  induction calls generalizing directory with
  | nil => exact ⟨rfl, rfl⟩
  | cons call rest ih =>
    let file := (perform (FileImage.mk (directory.contentAt place)) call).1
    have step : (perform (PlacedImage.mk directory place) call).1 =
        ⟨directory.put place (.file file.content), place⟩ := rfl
    have next := ih (directory.put place (.file file.content))
    rw [Directory.contentAt_put below] at next
    rw [after_cons, step]
    exact next

theorem placed_takes (image : PlacedImage) {call : ImageCall} (fits : call.Fits) :
    (perform image call).2 = none :=
  file_takes ⟨image.directory.contentAt image.place⟩ fits

theorem placed_accepts {place : Place} (below : isAbove place = false) (directory : Directory)
    {calls : List ImageCall} : Accepts (PlacedImage.mk directory place) calls ↔
      Accepts (FileImage.mk (directory.contentAt place)) calls := by
  induction calls generalizing directory with
  | nil => rfl
  | cons call rest ih =>
    let file := (perform (FileImage.mk (directory.contentAt place)) call).1
    have step : (perform (PlacedImage.mk directory place) call).1 =
        ⟨directory.put place (.file file.content), place⟩ := rfl
    have next := ih (directory.put place (.file file.content))
    rw [Directory.contentAt_put below] at next
    rw [Accepts, Accepts, step, next]
    rfl

end ImageSink

-- A sink that takes every call that fits, and by those it takes treats the image it holds as memory
-- does; `view` shows the image.
structure Holding {σ : Type} [ImageSink σ] (sink : σ) (view : σ → Bytes) : Prop where
  takes : ∀ (calls : List ImageCall) (call : ImageCall), call.Fits →
    (ImageSink.perform (ImageSink.after sink calls) call).2 = none
  holds : ∀ calls : List ImageCall, ImageSink.Accepts sink calls → (∀ call ∈ calls, call.Solid) →
    view (ImageSink.after sink calls) =
      (ImageSink.after (MemoryImage.mk (view sink)) calls).bytes

namespace Holding

theorem memory (image : MemoryImage) : Holding image (·.bytes) :=
  ⟨fun calls call _ => ImageSink.memory_faultless image calls call, fun _ _ _ => rfl⟩

theorem file (image : FileImage) : Holding image (·.content) :=
  ⟨fun _ _ fits => ImageSink.file_takes _ fits, fun _ accepts => ImageSink.file_after accepts⟩

theorem placed {place : Place} (below : isAbove place = false) (directory : Directory) :
    Holding (PlacedImage.mk directory place) (fun image => image.directory.contentAt place) := by
  refine ⟨fun _ _ fits => ImageSink.placed_takes _ fits, ?_⟩
  intro calls accepts solid
  show (ImageSink.after (PlacedImage.mk directory place) calls).directory.contentAt place = _
  rw [(ImageSink.placed_after below directory calls).2]
  exact ImageSink.file_after ((ImageSink.placed_accepts below directory).mp accepts) solid

theorem accepts {σ : Type} [ImageSink σ] {sink : σ} {view : σ → Bytes} (holding : Holding sink view)
    {calls : List ImageCall} (fits : ∀ call ∈ calls, call.Fits) : ImageSink.Accepts sink calls := by
  have takes := holding.takes
  clear holding
  induction calls generalizing sink with
  | nil => trivial
  | cons call rest ih =>
    refine ⟨takes [] call (fits call List.mem_cons_self), ih ?_ ?_⟩
    · exact fun other member => fits other (List.mem_cons_of_mem _ member)
    · exact fun before => takes (call :: before)

end Holding

-- Such a sink that holds nothing yet.
structure Blank {σ : Type} [ImageSink σ] (sink : σ) (view : σ → Bytes) : Prop
    extends Holding sink view where
  empty : view sink = []

namespace Blank

theorem memory : Blank (MemoryImage.mk []) (·.bytes) := ⟨.memory _, rfl⟩

theorem file : Blank (FileImage.mk []) (·.content) := ⟨.file _, rfl⟩

theorem placed {directory created : Directory} {path : String} {place : Place}
    (made : directory.createImage path = .ok (place, created)) :
    Blank (PlacedImage.mk created place) (fun image => image.directory.contentAt place) := by
  obtain ⟨below, empty⟩ := Directory.createImage_ok made
  exact ⟨.placed below created, empty⟩

end Blank

end PageStream
