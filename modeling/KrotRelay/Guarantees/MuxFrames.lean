import KrotRelay.Source.Mux

/-!
# Frames as they are sent

What a frame an end sends looks like, and what of it a reader holds: nine bytes inside the
encoding of such frames are the header of the next one.
-/
namespace KrotRelay.Guarantees
open Source

variable {payload buf more : List UInt8} {streamId : UInt32} {transit : List MuxFrame}

/-- A frame as an end within its limits sends it. -/
structure Sendable (frame : MuxFrame) : Prop where
  valid : frame.header.Valid
  size : frame.payload.length = Mux.payloadSize frame.header
  data : frame.header.flag = .data → frame.payload ≠ [] ∧ frame.payload.length ≤ maxMuxPayload
  notControl : frame.header.flag = .open_ → frame.header.streamId ≠ controlStreamId

theorem sendable_data (streamId : UInt32) (some_ : payload ≠ [])
    (within : payload.length ≤ maxMuxPayload) : Sendable (Mux.dataFrame streamId payload) := by
  refine ⟨⟨nofun, nofun⟩, ?_, fun _ => ⟨some_, within⟩, nofun⟩
  have fits : payload.length < 2 ^ 32 := within.trans_lt (by decide)
  exact (UInt32.toNat_ofNat_of_lt' fits).symm

theorem sendable_open (notControl : streamId ≠ controlStreamId) (nine : payload.length = 9) :
    Sendable (Mux.openFrame streamId payload) :=
  ⟨⟨nofun, fun _ => rfl⟩, nine, nofun, fun _ => notControl⟩

def encode (frames : List MuxFrame) : List UInt8 := frames.flatMap MuxFrame.bytes

def readerBytes : Reader → List UInt8
  | .header buf => buf
  | .payload header buf => header.toBytes ++ buf
  | .forwarding header _ chunk => header.toBytes ++ chunk
  | _ => []

/-- Inside a sendable frame the header's nine bytes are decoded to it. -/
theorem header_parsed (shaped : ∀ frame ∈ transit, Sendable frame)
    (nine : buf.length = muxHeaderSize) (bytes : encode transit = buf ++ more) :
    ∃ frame rest, transit = frame :: rest ∧ buf = frame.header.toBytes ∧
      MuxHeader.decode buf = .ok frame.header ∧ more = frame.payload ++ encode rest := by
  cases transit with
  | nil =>
    have empty : buf = [] := (List.append_eq_nil_iff.mp bytes.symm).1
    rw [empty] at nine
    cases nine
  | cons frame rest =>
    rw [encode, List.flatMap_cons, MuxFrame.bytes, List.append_assoc] at bytes
    obtain ⟨header, payload⟩ := List.append_inj bytes (by rw [MuxHeader.toBytes_length, nine]; rfl)
    have decoded := MuxHeader.decode_toBytes _ (shaped frame List.mem_cons_self).valid
    exact ⟨frame, rest, rfl, header.symm, header ▸ decoded, payload.symm⟩

/-- The frames on a connection can be told apart: where the bytes of some frames begin the
bytes of others, so do the frames. -/
theorem frames_prefix_free (sent transit : List MuxFrame) (formed : ∀ frame ∈ sent, Sendable frame)
    (shaped : ∀ frame ∈ transit, Sendable frame) (begins : encode sent <+: encode transit) :
    sent <+: transit := by
  induction sent generalizing transit with
  | nil => exact List.nil_prefix
  | cons frame rest ih =>
    obtain ⟨more, bytes⟩ := begins
    have own := formed frame List.mem_cons_self
    rw [encode, List.flatMap_cons, MuxFrame.bytes, List.append_assoc, List.append_assoc] at bytes
    obtain ⟨first, later, rfl, -, decoded, payload⟩ :=
      header_parsed shaped (MuxHeader.toBytes_length _) bytes.symm
    -- the header says how long the payload is
    have header : frame.header = first.header :=
      Except.ok.inj ((MuxHeader.decode_toBytes _ own.valid).symm.trans decoded)
    have size : frame.payload.length = first.payload.length := by
      rw [own.size, (shaped first List.mem_cons_self).size, header]
    obtain ⟨same, remaining⟩ := List.append_inj payload size
    have equal : frame = first := by
      cases frame
      cases first
      exact congrArg₂ _ header same
    rw [equal, List.prefix_cons_inj]
    exact ih later (fun other mem => formed other (List.mem_cons_of_mem _ mem))
      (fun other mem => shaped other (List.mem_cons_of_mem _ mem)) ⟨more, remaining⟩

theorem frames_prefix_free_open :
    [Mux.dataFrame 1 [7]] <+: [Mux.dataFrame 1 [7], Mux.openFrame 2 (List.replicate 9 0)] := by
  refine frames_prefix_free _ _ ?_ ?_ (by decide)
  · rintro frame (_ | ⟨_, ⟨⟩⟩)
    exact sendable_data 1 (by decide) (by decide)
  · rintro frame (_ | ⟨_, _ | ⟨_, ⟨⟩⟩⟩)
    · exact sendable_data 1 (by decide) (by decide)
    · exact sendable_open (by decide) rfl

end KrotRelay.Guarantees
