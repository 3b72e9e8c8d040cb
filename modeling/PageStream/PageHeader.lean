import PageStream.Failure

namespace PageStream

structure PageHeader where
  offset : Nat
  iteration : Nat
  offset_lt : offset < 2 ^ offsetBits
  iteration_lt : iteration < 2 ^ iterationBits
  deriving DecidableEq

namespace PageHeader

def word (h : PageHeader) : Nat := h.iteration * 2 ^ offsetBits + h.offset

def page (h : PageHeader) : Nat := h.offset / pageSize

def toBytes (h : PageHeader) : Bytes := le pageHeaderLength h.word

-- The two fields of a 64-bit word.
def split (word : Nat) : PageHeader where
  offset := word % 2 ^ offsetBits
  iteration := word / 2 ^ offsetBits % 2 ^ iterationBits
  offset_lt := Nat.mod_lt _ (by decide)
  iteration_lt := Nat.mod_lt _ (by decide)

def pack (offset iteration : Nat) : Except Failure PageHeader :=
  if offsetFits : offset < 2 ^ offsetBits then
    if iterationFits : iteration < 2 ^ iterationBits then
      .ok ⟨offset, iteration, offsetFits, iterationFits⟩
    else .error (.overflow (.wideIteration iteration))
  else .error (.overflow (.wideOffset offset))

def ofWord (word : Nat) : Except Failure PageHeader :=
  if (split word).offset % pageSize = 0 then .ok (split word)
  else .error (.malformed (.pageMisaligned word))

def decode (bytes : Bytes) : Except Failure PageHeader :=
  if bytes.length < pageHeaderLength then .error (.malformed (.pageHeaderCut bytes.length))
  else ofWord (wordAt bytes 0 pageHeaderLength)

theorem word_lt (h : PageHeader) : h.word < 2 ^ 64 := by
  have low : h.offset < 2 ^ 48 := h.offset_lt
  have high : h.iteration < 2 ^ 16 := h.iteration_lt
  show h.iteration * 2 ^ 48 + h.offset < 2 ^ 64
  omega

theorem split_word (h : PageHeader) : split h.word = h := by
  rcases h with ⟨offset, iteration, offset_lt, iteration_lt⟩
  have low : offset < 2 ^ 48 := offset_lt
  have high : iteration < 2 ^ 16 := iteration_lt
  have first : (iteration * 2 ^ 48 + offset) % 2 ^ 48 = offset := by omega
  have second : (iteration * 2 ^ 48 + offset) / 2 ^ 48 % 2 ^ 16 = iteration := by omega
  simp only [split, word, mk.injEq]
  exact ⟨first, second⟩

theorem word_split {word : Nat} (fits : word < 2 ^ 64) : (split word).word = word := by
  show word / 2 ^ 48 % 2 ^ 16 * 2 ^ 48 + word % 2 ^ 48 = word
  omega

end PageHeader

end PageStream
