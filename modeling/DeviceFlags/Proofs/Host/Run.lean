import DeviceFlags.Host.Run

/-!
# Runs step by step

A run from one host is a run over its first steps, and then a run over the
others from the host that these leave.
-/

namespace DeviceFlags.Host

/-- The host after a step. -/
def next (host : Host) (step : HostStep) : Host :=
  (host.step step).value.1

/-- The answer to a step. -/
def answer (host : Host) (step : HostStep) : Except HostError HostAnswer :=
  (host.step step).value.2

/-- The host after some steps. -/
def after (host : Host) (steps : List HostStep) : Host :=
  (host.run steps).value.1

/-- The answers to some steps. -/
def answers (host : Host) (steps : List HostStep) : List (Except HostError HostAnswer) :=
  (host.run steps).value.2

@[simp] theorem after_nil (host : Host) : host.after [] = host := rfl

@[simp] theorem after_cons (host : Host) (first : HostStep) (rest : List HostStep) :
    host.after (first :: rest) = (host.next first).after rest := rfl

@[simp] theorem answers_cons (host : Host) (first : HostStep) (rest : List HostStep) :
    host.answers (first :: rest) = host.answer first :: (host.next first).answers rest := rfl

/-- What is said of each step and its answer. -/
theorem flatMap_answers_cons {α : Type}
    (said : HostStep × Except HostError HostAnswer → List α) (host : Host) (first : HostStep)
    (rest : List HostStep) :
    ((first :: rest).zip (host.answers (first :: rest))).flatMap said =
      said (first, host.answer first) ++
        (rest.zip ((host.next first).answers rest)).flatMap said := by
  rw [answers_cons, List.zip_cons_cons, List.flatMap_cons]

theorem after_append (host : Host) (first second : List HostStep) :
    host.after (first ++ second) = (host.after first).after second := by
  induction first generalizing host with
  | nil => rfl
  | cons step rest ih => exact ih (host.next step)

/-! ## What the parts of a step leave as it is -/

section Keeps

variable {α : Type} (view : Host → α) {host : Host} {number : Nat}

theorem withRegistry_keeps {next : Registry → Logged Event (Host × Except HostError HostAnswer)}
    (kept : ∀ registry, view (next registry).value.1 = view host) :
    view (host.withRegistry number next).value.1 = view host := by
  unfold withRegistry
  cases host.registries[number]? with
  | none => rfl
  | some registry => exact kept registry

theorem withModule_keeps {next : Module → Logged Event (Host × Except HostError HostAnswer)}
    (kept : ∀ target, view (next target).value.1 = view host) :
    view (host.withModule number next).value.1 = view host := by
  unfold withModule
  cases host.modules[number]? with
  | none => rfl
  | some target => exact kept target

end Keeps

/-! ## Parts of a step that report nothing -/

section Silent

variable {host : Host} {number : Nat}

theorem withRegistry_silent {next : Registry → Logged Event (Host × Except HostError HostAnswer)}
    (silent : ∀ registry, (next registry).events = []) :
    (host.withRegistry number next).events = [] := by
  simp only [withRegistry]
  cases host.registries[number]? with
  | none => rfl
  | some registry => exact silent registry

theorem withModule_silent {next : Module → Logged Event (Host × Except HostError HostAnswer)}
    (silent : ∀ target, (next target).events = []) :
    (host.withModule number next).events = [] := by
  simp only [withModule]
  cases host.modules[number]? with
  | none => rfl
  | some target => exact silent target

end Silent

end DeviceFlags.Host
