import PageStream.CommandLine
import PageStream.Proofs.Coupling
import PageStream.Proofs.Serving
import PageStream.Proofs.Verdict

namespace PageStream

namespace Session

variable {σ τ : Type} [ImageSink σ] [ImageSink τ]

end Session

namespace CommandLine

variable {σ τ : Type} [ImageSink σ] [ImageSink τ]

section

variable {input : String} {settings : Settings} {directory : Directory}

end

section

variable (ending : Ending) (json : Bool)

end

section

variable {options : StreamOptions} {output : String} {environment : Environment}
  {directory created : Directory} {place : Place}

end

-- An input file whose bytes can be read and queued.
structure Input (input : String) (settings : Settings) (directory : Directory) (content : Bytes) :
    Prop where
  found : directory.lookUp input = .ok (.file content)
  chunk : settings.readChunk ≤ longestBuffer
  queue : Handoff.fits settings.queueCapacity = true

namespace Input

variable {input : String} {settings : Settings} {directory : Directory} {content : Bytes}

theorem served (there : Input input settings directory content) :
    ∃ source, Source.ofHandoff? (Entry.file content).reader settings.readChunk
        settings.queueCapacity = some source ∧
      source.feed.bytes = content ∧ source.feed.fault? = none := by
  have queued : Source.ofHandoff? (Entry.file content).reader settings.readChunk
      settings.queueCapacity = some _ := if_pos there.queue
  refine ⟨_, queued, ?_⟩
  have ends : (Entry.file content).reader.stop = .endOfFile := by
    cases content <;> rfl
  have whole (limit : Nat) : ((Entry.file content).reader.pieces limit).flatten = content := by
    cases content with
    | nil => rfl
    | cons byte rest =>
      show (chunks limit (byte :: rest) ++ []).flatten = byte :: rest
      rw [List.append_nil, chunks_flatten]
  have solid : (Entry.file content).reader.Solid := Reader.ofSteps_solid _
  rw [Handoff.queued_feed solid queued, Handoff.relayed, if_pos there.chunk, Reader.deliveries, ends]
  obtain ⟨bytes, clean⟩ := Feed.bytes_told ((Entry.file content).reader.pieces _)
  exact ⟨bytes.trans (whole _), clean⟩

end Input

end CommandLine

end PageStream
