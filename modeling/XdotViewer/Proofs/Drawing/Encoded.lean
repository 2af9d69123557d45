import XdotViewer.Proofs.Drawing.Endless

/-! # Drawing what has been written

A block reports a fatal instruction exactly if its script ends with one. A script in which
instructions have been written ends with none, and the block draws just these instructions.
-/

namespace XdotViewer

/-- A report on an instruction that ends its script. -/
def Diagnostic.IsFatal (d : Diagnostic) : Prop :=
  d.kind = .unknownOpCode ∨ d.kind = .unknownStyle ∨
    ∃ op entity : String, d = .missingOperand op entity

namespace Diagnostic

variable {d : Diagnostic}

private theorem IsFatal.kind (fatal : d.IsFatal) :
    d.kind = .unknownOpCode ∨ d.kind = .unknownStyle ∨ d.kind = .malformedInstruction := by
  rcases fatal with op | style | ⟨_, _, rfl⟩
  · exact .inl op
  · exact .inr (.inl style)
  · exact .inr (.inr rfl)

/-- The report on a spline is about a malformed instruction too, but its script goes on. -/
theorem not_isFatal_droppedSpline (entity : String) (count : Nat) :
    ¬ (droppedSpline entity count).IsFatal := by
  rintro (op | style | ⟨op, name, same⟩)
  · cases op
  · cases style
  · have heads := congrArg (fun d : Diagnostic => d.message.toList.head?) same
    simp [droppedSpline, missingOperand] at heads

end Diagnostic

private theorem Palettes.not_isFatal_of_mem_resolve {palettes : Palettes} {literal : String}
    {scheme : Option String} {d : Diagnostic} (reported : d ∈ (palettes.resolve literal scheme).2) :
    ¬ d.IsFatal := by
  have kind : d.kind = .unknownColor ∨ d.kind = .unknownColorScheme := by
    unfold resolve at reported
    split at reported
    · cases reported
    · simp only at reported
      split at reported
      · cases reported
      · split at reported
        · exact .inl (congrArg Diagnostic.kind (List.mem_singleton.mp reported))
        · rcases List.mem_cons.mp reported with rfl | reported
          · exact .inr rfl
          · exact .inl (congrArg Diagnostic.kind (List.mem_singleton.mp reported))
  intro fatal
  rcases kind with color | scheme
  · simpa [color] using fatal.kind
  · simpa [scheme] using fatal.kind

namespace Setting

variable {ι : Type} (setting : Setting ι) (entity : EntityRef)

private theorem isFatal_faultDiagnostic (name : String) (fault : Fault) :
    (faultDiagnostic name fault).IsFatal := by
  cases fault with
  | missingOperand op => exact .inr (.inr ⟨_, _, rfl⟩)
  | unknownStyle style => exact .inr (.inl rfl)
  | unknownOp word => exact .inl rfl

variable {d : Diagnostic}

/-- An instruction that is executed is not reported as fatal. -/
theorem not_isFatal_of_mem_execute {state : ScriptState} {instruction : Instruction}
    (reported : d ∈ (setting.execute entity state instruction).2.diagnostics) : ¬ d.IsFatal := by
  cases instruction with
  | spline filled points =>
    change d ∈ (if hasPartialSegment (points.map setting.flipPoint) then
      [Diagnostic.droppedSpline (setting.scene.nameOf entity) points.length] else []) ++ []
      at reported
    rw [List.append_nil] at reported
    split at reported
    · cases List.mem_singleton.mp reported
      exact Diagnostic.not_isFatal_droppedSpline _ _
    · cases reported
  | image corner width height source =>
    simp only [execute, drawImage] at reported
    split at reported
    · cases reported
    · cases reported
    · cases List.mem_singleton.mp reported
      exact fun fatal => by simpa [Diagnostic.failedImage] using fatal.kind
  | fillColor literal => exact Palettes.not_isFatal_of_mem_resolve reported
  | strokeColor literal => exact Palettes.not_isFatal_of_mem_resolve reported
  | style style => cases style <;> cases reported
  | ellipse => cases reported
  | polygon => cases reported
  | polyline => cases reported
  | text => cases reported
  | font => cases reported

private theorem not_isFatal_of_mem_executeAll {state : ScriptState}
    {instructions : List Instruction}
    (reported : d ∈ (setting.executeAll entity state instructions).diagnostics) :
    ¬ d.IsFatal := by
  induction instructions generalizing state with
  | nil => cases reported
  | cons instruction rest ih =>
    rcases List.mem_append.mp reported with first | later
    · exact setting.not_isFatal_of_mem_execute entity first
    · exact ih later

/-- A block reports a fatal instruction exactly if its script ends with one. -/
theorem exists_isFatal_iff {text : String} :
    (∃ d ∈ (setting.block entity text).diagnostics, d.IsFatal) ↔
      (Script.read text).fault ≠ none := by
  by_cases empty : (Script.read text).isEmpty = true
  · have sound : (Script.read text).fault = none := by
      simp only [Script.isEmpty, Bool.and_eq_true, Option.isNone_iff_eq_none] at empty
      exact empty.2
    rw [block, if_pos empty]
    refine iff_of_false ?_ (not_not_intro sound)
    rintro ⟨d, reported, -⟩
    cases reported
  · rw [(setting.block_of_filled entity empty).2, blockReports]
    constructor
    · rintro ⟨d, reported, fatal⟩ sound
      rw [sound] at reported
      rcases List.mem_append.mp reported with executed | fault
      · exact setting.not_isFatal_of_mem_executeAll entity executed fatal
      · cases fault
    · intro failed
      obtain ⟨fault, failed⟩ := Option.ne_none_iff_exists'.mp failed
      rw [failed]
      exact ⟨_, List.mem_append_right _ List.mem_cons_self, isFatal_faultDiagnostic _ fault⟩

/-- What has been written is read to the end of the text: the script has these instructions, with
these operands, and no fault. Its block executes them one after the other with a fresh pen, up to a
stroke without an end if there is one, and reports none of them as unknown, as malformed or as
lacking an operand. -/
theorem block_executes_encoded {instructions : List Instruction} {text : String}
    (encodes : Encodes instructions text.toList) :
    (∃ final, Reads (.ofText text.toList) instructions final ∧ final.isAtEnd = true) ∧
    Script.read text = ⟨instructions, none⟩ ∧
    (instructions = [] → setting.block entity text = ∅) ∧
    (instructions ≠ [] → setting.block entity text =
      .ofOps (.save :: penOps {}) ++ setting.executeAll entity {} instructions ++
        .ofOps [.restore]) ∧
    ((setting.block entity text).endless = true ↔
      ∃ stretch ∈ setting.instructionStretches entity {} instructions, setting.Endless stretch) ∧
    ∀ d ∈ (setting.block entity text).diagnostics,
      d.kind ≠ .unknownOpCode ∧ d.kind ≠ .unknownStyle ∧
        ∀ op name : String, d ≠ .missingOperand op name := by
  have script : Script.read text = ⟨instructions, none⟩ := encodes.readFrom
  refine ⟨⟨_, encodes.reads, rfl⟩, script, ?_, ?_, ?_, ?_⟩
  · rintro rfl
    rw [block, script]
    rfl
  · intro filled
    have filledScript : ¬ (Script.mk instructions none).isEmpty = true := by
      simpa [Script.isEmpty] using filled
    rw [block, script, if_neg filledScript, Trace.append_assoc]
    rfl
  · rw [endless_block, script]
  · intro d reported
    have harmless : ¬ d.IsFatal := fun fatal =>
      (setting.exists_isFatal_iff entity).mp ⟨d, reported, fatal⟩ (congrArg Script.fault script)
    exact ⟨fun op => harmless (.inl op), fun style => harmless (.inr (.inl style)),
      fun op name same => harmless (.inr (.inr ⟨op, name, same⟩))⟩

/-- Numbers written in different ways, and a text that itself looks like an instruction. -/
theorem block_executes_encoded_lookalike :
    let number := fun token : String => (finite? token.toList).getD 0.0
    let instructions : List Instruction :=
      [.polyline [⟨number "2e1", number "-.5"⟩], .style (.width LineStyle.boldWidth),
        .text ⟨number "27", number "9."⟩ (number "0") (number "+9") "- é E 1 "]
    let text := " L 1.0 2e1 -.5 S 4 -bold T 27 9. 0 +9 9 -- é E 1 "
    let setting : Setting Unit :=
      ⟨⟨.new "G" false .directed, {}, []⟩, .minimal, {}, fun _ => .pending⟩
    let entity := EntityRef.graph Scene.root
    Encodes instructions text.toList ∧ Script.read text = ⟨instructions, none⟩ ∧
      setting.block entity text =
        .ofOps (.save :: penOps {}) ++ setting.executeAll entity {} instructions ++
          .ofOps [.restore] := by
  intro number instructions text setting entity
  have numbers (tokens : List String) (words : ∀ token ∈ tokens, IsWord token.toList)
      (finite : ∀ token ∈ tokens, (finite? token.toList).isSome = true) :
      WritesNumbers (tokens.map number) (tokens.map String.toList) := by
    induction tokens with
    | nil => exact .nil
    | cons token rest ih =>
      obtain ⟨word, words⟩ := List.forall_mem_cons.mp words
      obtain ⟨read, finite⟩ := List.forall_mem_cons.mp finite
      obtain ⟨value, read⟩ := Option.isSome_iff_exists.mp read
      exact .cons ⟨word, by simp only [number, read, Option.getD_some]⟩ (ih words finite)
  have line := numbers ["2e1", "-.5"] (by decide +kernel) (by decide +kernel)
  have label := numbers ["27", "9.", "0", "+9"] (by decide +kernel) (by decide +kernel)
  let parts : List (List (List Char)) :=
    [["L", "1.0", "2e1", "-.5"].map String.toList, ["S", "4", "-bold"].map String.toList,
      ['T'] :: (["27", "9.", "0", "+9"].map String.toList ++ ["9", "-- é E 1 "].map String.toList)]
  have writes : List.Forall₂ Instruction.Writes instructions parts :=
    .cons (.polyline (.counted (by decide +kernel) (by decide +kernel) line))
      (.cons (.style .bold (.announced (by decide +kernel) (by decide +kernel)))
        (.cons (.text label (.announced (by decide +kernel) (by decide +kernel))) .nil))
  have whole : text.toList = parts.flatten.flatMap fun token => [' '] ++ token := by decide
  have encodes : Encodes instructions text.toList := ⟨parts, writes, whole ▸ spaced_flatMap _⟩
  obtain ⟨-, script, -, executed, -⟩ := block_executes_encoded setting entity encodes
  exact ⟨encodes, script, executed (List.cons_ne_nil _ _)⟩

/-- A script that is written as it should be, and whose block is never left. -/
theorem endless_encoded_longDash :
    let setting : Setting Unit :=
      ⟨⟨.new "G" false .directed, {}, []⟩, .minimal, {}, fun _ => .pending⟩
    Encodes [.style .dashed, .polyline [⟨0.0, 0.0⟩, ⟨1e17, 0.0⟩]] longDash.toList ∧
      (setting.block (.graph Scene.root) longDash).endless = true :=
  ⟨encodes_longDash, endless_block_longDash rfl rfl _⟩

end Setting

end XdotViewer
