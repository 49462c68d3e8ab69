import MyRtspServer.Net.H264Demux

/-!
# When `H264MediaSource` starts its file over

A buffer without a second start code is taken for the end of the file. That is so
for all units of a file exactly when each fits into a buffer together with the
start code behind it.
-/
namespace MyRtspServer.Net

open Library Library.AnnexB Library.Transition

/-! ## One `ReadFrame` after another -/

/-- One `ReadFrame` with a frame to fill, and the frame if it is published. -/
def Reader.step (r : Reader) (call : ReadEnv × AVFrame) : Except RtpFault (Reader × List AVFrame) :=
  match r.readInto call.1 call.2 with
  | .error e => .error e
  | .ok filled => .ok (filled.reader, if filled.published then [filled.frame] else [])

/-- The calls find a regular file. -/
def ReadsAllCalls (calls : List (ReadEnv × AVFrame)) : Prop :=
  ∀ call ∈ calls, ReadsAll frameMaxSize call.1

/-- **The threads only ever read like this**: whatever else a pipeline does, its
reader has made one call after another, and their frames are what was published. -/
theorem Pipeline.run_reader {p p' : Pipeline} {acts : List PipelineAct} {events : List FrameEvent}
    (h : run step p acts = .ok (p', events)) :
    ∃ calls, run Reader.step p.source.reader calls =
      .ok (p'.source.reader, (filledOf events).map Prod.snd) := by
  refine run_logged (fun q log => ∃ calls,
    run Reader.step p.source.reader calls = .ok (q.source.reader, (filledOf log).map Prod.snd))
    ?_ (show ∃ calls, run Reader.step p.source.reader calls =
      .ok (p.source.reader, (filledOf []).map Prod.snd) from ⟨[], rfl⟩) meets_true h
  rintro q act q' log out ⟨calls, hcalls⟩ - hstep
  have hquiet : q'.source.reader = q.source.reader → filledOf out = [] → ∃ calls,
      run Reader.step p.source.reader calls =
        .ok (q'.source.reader, (filledOf (log ++ out)).map Prod.snd) := by
    intro hreader hout
    rw [filledOf_append, hout, List.append_nil, hreader]
    exact ⟨calls, hcalls⟩
  cases act with
  | readFrame env =>
    simp only [step, Pipeline.readFrame] at hstep
    split at hstep
    · cases hstep
      exact hquiet rfl rfl
    split at hstep
    · cases hstep
    rename_i source events hread
    cases hstep
    unfold MediaSource.readFrame at hread
    split at hread
    · cases hread
      exact hquiet rfl rfl
    rename_i i rest hque
    split at hread
    · cases hread
    rename_i filled hfilled
    have hlast : run Reader.step q.source.reader [(env, q.source.frames i)] =
        .ok (filled.reader, if filled.published then [filled.frame] else []) := by
      rw [run, Reader.step, hfilled]
      simp only [run, List.append_nil]
    refine ⟨calls ++ [(env, q.source.frames i)], ?_⟩
    rw [run_append_eq hcalls, hlast, filledOf_append]
    dsimp only at hread
    split at hread
    · rename_i hp
      cases hread
      simp [Except.map, hp, filledOf]
    · rename_i hp
      cases hread
      simp [Except.map, hp, filledOf]
  | _ =>
    cases step_outcome hstep <;> exact hquiet rfl rfl

/-! ## Starting over -/

/-- The frame after which the file is back at 0 ends the file. -/
def RewindsAtEnd (file : File) (got : GotFrame) : Prop :=
  0 ≤ got.size → got.file.pos = 0 → file.pos + got.size = file.content.length

/-- What the source owes a file of NAL units, however its frames were used before:
it starts over only behind the last unit, and as many reads as there are units
publish each of them. -/
structure RewindsOnlyAtEnd (units : List NalUnit) : Prop where
  rewinds : ∀ calls, ReadsAllCalls calls → ∀ file published,
    run Reader.step (readerAt units 0) calls = .ok (.h264 file, published) →
      ∀ env, ReadsAll frameMaxSize env → ∀ frame got,
        getFrameFromH264File file env frame frameMaxSize = .ok got → RewindsAtEnd file got
  publishes : ∀ calls, ReadsAllCalls calls → units.length ≤ calls.length → ∀ u ∈ units,
    ∃ r published, run Reader.step (readerAt units 0) calls = .ok (r, published) ∧
      ∃ frame ∈ published, frame.nal = u.nal

/-! ## While the codes fit -/

theorem step_unit {units : List NalUnit} {call : ReadEnv × AVFrame}
    (hcall : ReadsAll frameMaxSize call.1) {k : Nat} (hk : k < units.length)
    (hfit : CodeFits frameMaxSize units[k] (units.drop (k + 1))) :
    ∃ frame, (readerAt units k).step call = .ok (readerAt units ((k + 1) % units.length), [frame]) ∧
      frame.nal = units[k].nal := by
  obtain ⟨filled, hread, hnal⟩ := readInto_unit hcall call.2 hk hfit
  refine ⟨filled, ?_, hnal⟩
  rw [Reader.step, hread]
  rfl

/-- The `j`-th frame of a run from unit `k` on is the unit `j` places further, around
the file. -/
theorem run_units {units : List NalUnit} (hfit : CodesFit units)
    (calls : List (ReadEnv × AVFrame)) : ∀ {k : Nat}, k < units.length → ReadsAllCalls calls →
      ∃ published, run Reader.step (readerAt units k) calls =
          .ok (readerAt units ((k + calls.length) % units.length), published) ∧
        ∀ j, j < calls.length →
          published[j]?.map AVFrame.nal = units[(k + j) % units.length]?.map NalUnit.nal := by
  induction calls with
  | nil =>
    intro k hk _
    refine ⟨[], ?_, fun j hj => absurd hj (Nat.not_lt_zero j)⟩
    rw [run, List.length_nil, Nat.add_zero, Nat.mod_eq_of_lt hk]
  | cons call calls ih =>
    intro k hk hcalls
    have hpos : 0 < units.length := Nat.lt_of_le_of_lt (Nat.zero_le k) hk
    obtain ⟨frame, hstep, hnal⟩ := step_unit (hcalls call List.mem_cons_self) hk
      (hfit _ _ _ (units_split hk))
    obtain ⟨published, hrun, hrest⟩ := ih (Nat.mod_lt (k + 1) hpos)
      fun c hc => hcalls c (List.mem_cons_of_mem _ hc)
    refine ⟨frame :: published, ?_, fun j hj => ?_⟩
    · rw [run_cons_eq hstep, hrun, Nat.mod_add_mod, List.length_cons, Nat.add_right_comm]
      rfl
    · cases j with
      | zero =>
        rw [Nat.add_zero, Nat.mod_eq_of_lt hk, List.getElem?_eq_getElem hk]
        exact congrArg some hnal
      | succ j =>
        rw [List.getElem?_cons_succ, hrest j (by simpa using hj), Nat.mod_add_mod,
          Nat.add_right_comm, Nat.add_assoc]

/-- The file in front of unit `k`. -/
def fileAt (units : List NalUnit) (k : Nat) : File :=
  { content := stream units, pos := (stream (units.take k)).length }

theorem fileAt_drop {units : List NalUnit} {k : Nat} (hk : k < units.length) :
    (fileAt units k).content.drop (fileAt units k).pos =
      units[k].bytes ++ stream (units.drop (k + 1)) :=
  stream_drop hk

/-- A frame that is a whole unit starts the file over at its end. -/
theorem rewindsAtEnd_unit {units : List NalUnit} {env : ReadEnv} (henv : ReadsAll frameMaxSize env)
    {k : Nat} (hk : k < units.length)
    (hfit : CodeFits frameMaxSize units[k] (units.drop (k + 1))) {file : File}
    (hfile : readerAt units k = .h264 file) {frame : Memory} {got : GotFrame}
    (hgot : getFrameFromH264File file env frame frameMaxSize = .ok got) : RewindsAtEnd file got := by
  obtain rfl : fileAt units k = file := Reader.h264.inj hfile
  have hdrop := fileAt_drop hk
  obtain ⟨got', hgot', -, hsize, hbehind⟩ :=
    getFrameFromH264File_unit frame hdrop hfit (Nat.le_refl _) henv
  rw [hgot] at hgot'
  cases hgot'
  intro _ hzero
  rw [hbehind, File.behind] at hzero
  have hfour := units[k].four_le_bytes
  have hlast : units.drop (k + 1) = [] := by
    by_contra hmore
    rw [if_neg hmore] at hzero
    dsimp only at hzero
    omega
  have hlength := congrArg List.length hdrop
  have hnil : (stream []).length = 0 := rfl
  rw [hlast, List.length_drop, List.length_append, hnil] at hlength
  rw [hsize]
  omega

/-! ## A file without units -/

theorem scanStartCode_le {m : Memory} {left next : Nat} : ∀ {p : Nat},
    scanStartCode m left p = .ok (some next) → p ≤ next := by
  induction left with
  | zero =>
    intro p h
    rw [scanStartCode] at h
    split at h
    · cases h
    split at h <;> cases h
    exact Nat.le_refl _
  | succ left ih =>
    intro p h
    rw [scanStartCode] at h
    split at h
    · cases h
    · cases h
      exact Nat.le_refl _
    · exact Nat.le_trans (Nat.le_succ p) (ih h)

/-- Nothing is read, and whatever the buffer held before is searched. -/
theorem rewindsAtEnd_empty {file : File} (hfile : file.content = []) {env : ReadEnv}
    (henv : ReadsAll frameMaxSize env) {frame : Memory} {got : GotFrame}
    (hgot : getFrameFromH264File file env frame frameMaxSize = .ok got) : RewindsAtEnd file got := by
  intro hsize hzero
  have hread := read_all file henv
  rw [hfile, List.drop_nil, List.take_nil] at hread
  have hlen : ((readReturn (some []) - 3) % 2 ^ 32).toNat = 2 ^ 32 - 3 := by decide
  simp only [getFrameFromH264File, hread, hlen] at hgot
  split at hgot
  · cases hgot
  · cases hgot
    cases hsize
  rename_i hcode
  rw [findNextStartCode, if_neg (by decide)] at hgot
  split at hgot
  · cases hgot
  · exact absurd (scanStartCode_none ‹_›) (by decide)
  · rename_i next hnext
    have hthree := scanStartCode_le hnext
    cases hgot
    have hahead : (0 : Int) ≤ (file.pos + ([] : Octets).length : Nat) +
        ((next : Int) - readReturn (some [])) := by
      simp only [readReturn, List.length_nil]
      omega
    rw [File.seekCur, if_pos hahead] at hzero
    simp only [readReturn, List.length_nil] at hzero
    omega

theorem File.seekCur_content (file : File) (by_ : Int) :
    (file.seekCur by_).content = file.content := by
  unfold File.seekCur
  split <;> rfl

theorem getFrameFromH264File_content {file : File} {env : ReadEnv} {frame : Memory} {size : Nat}
    {got : GotFrame} (h : getFrameFromH264File file env frame size = .ok got) :
    got.file.content = file.content := by
  have hread := file.read_content (env.answer 0) size
  simp only [getFrameFromH264File] at h
  split at h
  · cases h
  · cases h
    exact hread
  · split at h
    · cases h
    · cases h
      exact hread
    · cases h
      exact (File.seekCur_content _ _).trans hread

theorem h264ReadInto_content {file : File} {env : ReadEnv} {frame : AVFrame} {filled : Filled}
    (h : h264ReadInto file env frame = .ok filled) :
    ∃ file', filled.reader = .h264 file' ∧ file'.content = file.content := by
  unfold h264ReadInto at h
  split at h
  · cases h
  rename_i got hgot
  have hcontent := getFrameFromH264File_content hgot
  dsimp only at h
  split at h
  · cases h
    exact ⟨got.file, rfl, hcontent⟩
  split at h
  · cases h
  · cases h
    exact ⟨got.file, rfl, hcontent⟩
  · cases h
    exact ⟨got.file, rfl, hcontent⟩

/-- The content never changes. -/
theorem run_content {content : List UInt8} {r r' : Reader} {calls : List (ReadEnv × AVFrame)}
    {published : List AVFrame} (hr : ∃ file, r = .h264 file ∧ file.content = content)
    (h : run Reader.step r calls = .ok (r', published)) :
    ∃ file, r' = .h264 file ∧ file.content = content := by
  refine run_invariant
    (fun r => ∃ file, r = .h264 file ∧ file.content = content) ?_ hr meets_true h
  rintro _ call t out ⟨file, rfl, hfile⟩ - hstep
  unfold Reader.step at hstep
  split at hstep
  · cases hstep
  rename_i filled hread
  cases hstep
  obtain ⟨file', hreader, hcontent⟩ := h264ReadInto_content hread
  exact ⟨file', hreader, hcontent.trans hfile⟩

/-! ## When a start code is cut -/

/-- The buffer is full before the start code behind the unit ends: the file is
started over, and the unit is handed on with the zeros behind it. -/
theorem getFrameFromH264File_cut {file : File} {env : ReadEnv} (frame : Memory) {u : NalUnit}
    {later : List NalUnit} (hfile : file.content.drop file.pos = u.bytes ++ stream later)
    (hfits : u.bytes.length ≤ frameMaxSize) (hcut : ¬ CodeFits frameMaxSize u later)
    (henv : ReadsAll frameMaxSize env) :
    frameMaxSize < (u.bytes ++ stream later).length ∧
      ∃ got, getFrameFromH264File file env frame frameMaxSize = .ok got ∧
        got.size = frameMaxSize ∧ got.file.pos = 0 := by
  rw [CodeFits, List.length_append] at hcut
  cases later with
  | nil => exact absurd hfits hcut
  | cons v more =>
    have hroom : frameMaxSize - u.bytes.length < v.code.length := by
      change ¬ _ + v.code.length ≤ _ at hcut
      omega
    have hstream : stream (v :: more) = v.code ++ (v.nal ++ stream more) := by
      rw [stream, List.flatMap_cons, NalUnit.bytes, List.append_assoc]
      rfl
    have htake : (u.bytes ++ stream (v :: more)).take frameMaxSize =
        u.bytes ++ v.code.take (frameMaxSize - u.bytes.length) := by
      rw [hstream, List.take_append, List.take_of_length_le hfits,
        List.take_append_of_le_length (Nat.le_of_lt hroom)]
    have hlength : frameMaxSize < (u.bytes ++ stream (v :: more)).length := by
      rw [hstream, List.length_append, List.length_append]
      omega
    have hfull : (u.bytes ++ v.code.take (frameMaxSize - u.bytes.length)).length =
        frameMaxSize := by
      rw [← htake, List.length_take]
      omega
    have hread := read_all file henv
    rw [hfile, htake] at hread
    refine ⟨hlength, _, getFrameFromH264File_rest hread frame hfull.le (startsCode_bytes u _) ?_,
      congrArg Nat.cast hfull, rfl⟩
    intro q hq _
    by_cases hinside : q < u.bytes.length
    · exact not_startsCode_bytes u _ hq hinside
    · obtain ⟨i, rfl⟩ := Nat.exists_eq_add_of_le (Nat.not_lt.mp hinside)
      rw [List.drop_length_add_append]
      exact v.not_startsCode_cut hroom i

/-- A `ReadFrame` that is not interrupted. -/
def wholeCall : ReadEnv × AVFrame := ({ answer := fun _ => some frameMaxSize }, {})

theorem wholeCall_reads : ReadsAll frameMaxSize wholeCall.1 := ⟨frameMaxSize, rfl, Nat.le_refl _⟩

/-- Some calls lead to unit `k`, if the units in front of it are read whole. -/
theorem run_to_unit {units : List NalUnit} {k : Nat} : ∀ (_ : k < units.length),
    (∀ i (hi : i < units.length), i < k → CodeFits frameMaxSize units[i] (units.drop (i + 1))) →
      ∃ calls published, ReadsAllCalls calls ∧
        run Reader.step (readerAt units 0) calls = .ok (readerAt units k, published) := by
  induction k with
  | zero =>
    intro _ _
    refine ⟨[], [], ?_, rfl⟩
    intro call hcall
    cases hcall
  | succ k ih =>
    intro hk hfit
    have hk' : k < units.length := Nat.lt_of_succ_lt hk
    obtain ⟨calls, published, hcalls, hrun⟩ :=
      ih hk' fun i hi hlt => hfit i hi (Nat.lt_succ_of_lt hlt)
    obtain ⟨frame, hstep, -⟩ := step_unit wholeCall_reads hk' (hfit k hk' (Nat.lt_succ_self k))
    rw [Nat.mod_eq_of_lt hk] at hstep
    have hlast : run Reader.step (readerAt units k) [wholeCall] =
        .ok (readerAt units (k + 1), [frame]) := by
      rw [run_cons_eq hstep]
      rfl
    refine ⟨calls ++ [wholeCall], published ++ [frame], ?_, run_append_ok hrun hlast⟩
    intro call hcall
    rcases List.mem_append.mp hcall with hcall | hcall
    · exact hcalls call hcall
    · rw [List.mem_singleton.mp hcall]
      exact wholeCall_reads

/-- A source that starts over only at the end has read every unit whole. By
induction: it has come to unit `k` past units that were. -/
theorem RewindsOnlyAtEnd.codeFits {units : List NalUnit} (h : RewindsOnlyAtEnd units)
    (hfits : ∀ u ∈ units, u.bytes.length ≤ frameMaxSize) (k : Nat) : ∀ (hk : k < units.length),
      CodeFits frameMaxSize units[k] (units.drop (k + 1)) := by
  induction k using Nat.strongRecOn with
  | ind k ih =>
    intro hk
    by_contra hcut
    obtain ⟨calls, published, hcalls, hrun⟩ := run_to_unit hk fun i hi hlt => ih i hlt hi
    have hdrop := fileAt_drop hk
    obtain ⟨hlong, got, hgot, hsize, hzero⟩ := getFrameFromH264File_cut (fun _ => 0) hdrop
      (hfits _ (List.getElem_mem hk)) hcut wholeCall_reads
    have hend := h.rewinds calls hcalls (fileAt units k) published hrun _ wholeCall_reads _ got hgot
      (by rw [hsize]; exact Int.natCast_nonneg _) hzero
    rw [hsize] at hend
    have hlength := congrArg List.length hdrop
    rw [List.length_drop] at hlength
    omega

/-- **The source starts over only at the end of the file exactly when each unit fits
into a buffer together with the start code behind it.** -/
theorem rewindsOnlyAtEnd_iff (units : List NalUnit)
    (hfits : ∀ u ∈ units, u.bytes.length ≤ frameMaxSize) :
    RewindsOnlyAtEnd units ↔ CodesFit units := by
  constructor
  · rintro h pre u later rfl
    have hk : pre.length < (pre ++ u :: later).length := by simp
    simpa using h.codeFits hfits pre.length hk
  · intro hcodes
    constructor
    · intro calls hcalls file published hrun env henv frame got hgot
      by_cases hne : units = []
      · subst hne
        obtain ⟨file', hfile', hcontent⟩ := run_content ⟨_, rfl, rfl⟩ hrun
        cases hfile'
        exact rewindsAtEnd_empty hcontent henv hgot
      · have hpos := List.length_pos_of_ne_nil hne
        obtain ⟨_, hunits, -⟩ := run_units hcodes calls hpos hcalls
        rw [hrun] at hunits
        have hreader := congrArg Prod.fst (Except.ok.inj hunits)
        have hk := Nat.mod_lt (0 + calls.length) hpos
        exact rewindsAtEnd_unit henv hk (hcodes _ _ _ (units_split hk)) hreader.symm hgot
    · intro calls hcalls hlength u hu
      obtain ⟨j, hj, rfl⟩ := List.getElem_of_mem hu
      obtain ⟨published, hrun, hframes⟩ :=
        run_units hcodes calls (Nat.zero_lt_of_lt hj) hcalls
      have hframe := hframes j (Nat.lt_of_lt_of_le hj hlength)
      rw [Nat.zero_add, Nat.mod_eq_of_lt hj, List.getElem?_eq_getElem hj, Option.map_some] at hframe
      obtain ⟨frame, hmem, hnal⟩ := Option.map_eq_some_iff.mp hframe
      exact ⟨_, published, hrun, frame, List.mem_of_getElem? hmem, hnal⟩

theorem rewindsOnlyAtEnd_iff_sample : RewindsOnlyAtEnd Pipeline.sampleUnits := by
  refine (rewindsOnlyAtEnd_iff Pipeline.sampleUnits ?_).mpr fun pre u later hsplit =>
    (Pipeline.unitsFit_of_short (by decide) pre u later hsplit).codeFits
  intro u hu
  rcases List.mem_cons.mp hu with rfl | hu
  · decide
  · rcases List.mem_singleton.mp hu with rfl
    decide

/-! ## A unit that fills the buffer -/

theorem plain_clean (n : Nat) : ¬ code3 <:+: List.replicate (n + 1) 0x65 := by
  intro h
  have hone : (1 : UInt8) ∈ List.replicate (n + 1) 0x65 := h.subset (by simp [code3])
  exact absurd (List.eq_of_mem_replicate hone) (by decide)

theorem plain_nonempty (n : Nat) : List.replicate (n + 1) (0x65 : UInt8) ≠ [] :=
  List.cons_ne_nil _ _

theorem plain_ends (n : Nat) :
    (List.replicate (n + 1) (0x65 : UInt8)).getLast (plain_nonempty n) ≠ 0 := by
  rw [List.getLast_replicate]
  decide

/-- A slice of `n + 1` equal bytes behind a start code of three. -/
def plainUnit (n : Nat) : NalUnit :=
  ⟨false, List.replicate (n + 1) 0x65, plain_nonempty n, plain_clean n, plain_ends n⟩

theorem plainUnit_length (n : Nat) : (plainUnit n).bytes.length = n + 4 := by
  rw [NalUnit.bytes_length, NalUnit.code_length, plainUnit, List.length_replicate]
  change 3 + (n + 1) = n + 4
  omega

theorem rewinds_early_full_buffer : ∃ units : List NalUnit,
    (∀ u ∈ units, u.bytes.length ≤ frameMaxSize) ∧ ¬ RewindsOnlyAtEnd units := by
  have hfits : ∀ u ∈ [plainUnit (frameMaxSize - 4), plainUnit 0],
      u.bytes.length ≤ frameMaxSize := by
    intro u hu
    rcases List.mem_cons.mp hu with rfl | hu
    · rw [plainUnit_length]
      decide
    · rw [List.mem_singleton.mp hu, plainUnit_length]
      decide
  refine ⟨_, hfits, fun h => ?_⟩
  have hfirst : CodeFits frameMaxSize (plainUnit (frameMaxSize - 4)) [plainUnit 0] :=
    h.codeFits hfits 0 (Nat.zero_lt_succ 1)
  rw [CodeFits, List.length_append, plainUnit_length] at hfirst
  exact absurd hfirst (by decide)

end MyRtspServer.Net
