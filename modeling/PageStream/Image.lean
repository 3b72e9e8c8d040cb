import PageStream.Failure

namespace PageStream

inductive ImageCall where
  | resize (length : Nat)
  | write (offset : Nat) (data : Bytes)
  | flush
  deriving DecidableEq

class ImageSink (σ : Type) where
  perform : σ → ImageCall → σ × Option DeviceFault

-- A fresh image is empty; room that nothing was written to holds zeros.
def grow (bytes : Bytes) (length : Nat) : Bytes :=
  bytes ++ List.replicate (length - bytes.length) 0

-- Bytes replaced from an offset on. An image that ends before the offset is filled up with zeros to
-- there, also when there is nothing to put.
def overwrite (bytes : Bytes) (offset : Nat) (data : Bytes) : Bytes :=
  bytes.take offset ++ (List.replicate (offset - bytes.length) 0 ++
    (data ++ bytes.drop (offset + data.length)))

theorem grow_length (bytes : Bytes) (length : Nat) :
    (grow bytes length).length = max bytes.length length := by
  simp only [grow, List.length_append, List.length_replicate]; omega

theorem overwrite_length (bytes : Bytes) (offset : Nat) (data : Bytes) :
    (overwrite bytes offset data).length = max bytes.length (offset + data.length) := by
  simp only [overwrite, List.length_append, List.length_take, List.length_replicate,
    List.length_drop]
  omega

structure MemoryImage where
  bytes : Bytes
  deriving DecidableEq

instance : ImageSink MemoryImage where
  perform image call :=
    match call with
    | .resize length => (⟨grow image.bytes length⟩, none)
    | .write offset data => (⟨overwrite image.bytes offset data⟩, none)
    | .flush => (image, none)

-- The content of an image file. Writing nothing leaves a file as it is, even past its end.
structure FileImage where
  content : Bytes
  deriving DecidableEq

-- Lengths of files and places in them are signed words.
def fileBound : Nat := 2 ^ 63

-- A call that leads beyond what a file can be is refused and leaves the file as it is.
instance : ImageSink FileImage where
  perform image call :=
    match call with
    | .resize length =>
      if image.content.length < length ∧ fileBound ≤ length then (image, some .longFile)
      else (⟨grow image.content length⟩, none)
    | .write offset data =>
      if fileBound ≤ offset + data.length then (image, some .noSuchPlace)
      else if data = [] then (image, none)
      else (⟨overwrite image.content offset data⟩, none)
    | .flush => (image, none)

structure NullImage where
  deriving DecidableEq

instance : ImageSink NullImage where
  perform image _ := (image, none)

structure Recorder (σ : Type) where
  behind : σ
  calls : List ImageCall

instance [ImageSink σ] : ImageSink (Recorder σ) where
  perform recorder call :=
    let (behind, fault) := ImageSink.perform recorder.behind call
    (⟨behind, recorder.calls ++ [call]⟩, fault)

-- A sink that keeps nothing and fails at chosen calls: at one of its writes, counted from one, at
-- every announcement of a length, at every flush.
structure FaultyImage where
  failWrite : Option Nat
  failResize : Bool
  failFlush : Bool
  writes : Nat
  deriving DecidableEq

instance : ImageSink FaultyImage where
  perform image call :=
    match call with
    | .resize _ =>
      (image, if image.failResize then some (.reported false "injected size failure") else none)
    | .write _ _ =>
      let writes := image.writes + 1
      ({ image with writes },
        if image.failWrite = some writes then some (.reported false "injected write failure")
        else none)
    | .flush =>
      (image, if image.failFlush then some (.reported false "injected flush failure") else none)

end PageStream
