import BitboxWallet.Bitbox.Basic

/-! # Censored logging (`devices/usb/communication.go`)

`hideValues` replaces every value of a message by `"****"`, keeping the keys and the objects
they lead to; `logCensoredCmd` logs the result at debug level. What it logs depends on the
message's skeleton only: its keys, and where its objects are.

A map is held as its entries in key order, the order `json.Marshal` writes them in. The JSON
text is read and written by `json.Unmarshal` and `json.Marshal`, which are parameters.
-/

namespace BitboxWallet.Usb

open Bitbox

mutual
/-- The loop body of `hideValues` for one value: a map is censored in place, anything else
becomes `"****"`. -/
def hideValue : Json → Json
  | .obj value => .obj (hideValues value)
  | _ => .str "****"

def hideValues : JsonMap → JsonMap
  | [] => []
  | (k, v) :: cmd => (k, hideValue v) :: hideValues cmd
end

@[simp] theorem hideValue_obj (value : JsonMap) : hideValue (.obj value) = .obj (hideValues value) :=
  rfl

theorem hideValue_of_isObj_false {v : Json} (h : v.isObj = false) : hideValue v = .str "****" := by
  cases v <;> first | rfl | cases h

@[simp] theorem isObj_hideValue (v : Json) : (hideValue v).isObj = v.isObj := by
  cases v <;> rfl

theorem Json.eq_obj_of_isObj {v : Json} (h : v.isObj = true) : ∃ value, v = .obj value := by
  cases v <;> first | exact ⟨_, rfl⟩ | cases h

@[simp] theorem hideValues_nil : hideValues [] = [] := rfl

@[simp] theorem hideValues_cons (k : String) (v : Json) (cmd : JsonMap) :
    hideValues ((k, v) :: cmd) = (k, hideValue v) :: hideValues cmd := rfl

/-! ## Skeletons -/

mutual
/-- A value as `hideValues` leaves it: a masked object, or `"****"`. -/
inductive MaskedValue : Json → Prop
  | obj {value : JsonMap} : Masked value → MaskedValue (.obj value)
  | mask : MaskedValue (.str "****")

/-- Every value, at every object level, is `"****"`. -/
inductive Masked : JsonMap → Prop
  | nil : Masked []
  | cons {k : String} {v : Json} {cmd : JsonMap} : MaskedValue v → Masked cmd → Masked ((k, v) :: cmd)
end

mutual
/-- Two values of the same shape: objects with the same skeleton, or neither an object. -/
inductive SameShape : Json → Json → Prop
  | obj {value value' : JsonMap} : SameSkeleton value value' → SameShape (.obj value) (.obj value')
  | leaf {v v' : Json} : v.isObj = false → v'.isObj = false → SameShape v v'

/-- Two maps with the same keys in the same order at every object level, and objects at the same
places. -/
inductive SameSkeleton : JsonMap → JsonMap → Prop
  | nil : SameSkeleton [] []
  | cons {k : String} {v v' : Json} {cmd cmd' : JsonMap} :
      SameShape v v' → SameSkeleton cmd cmd' → SameSkeleton ((k, v) :: cmd) ((k, v') :: cmd')
end

mutual
theorem maskedValue_hideValue : (v : Json) → MaskedValue (hideValue v)
  | .obj value => .obj (masked_hideValues value)
  | .null | .bool _ | .num _ | .str _ | .arr _ => .mask

theorem masked_hideValues : (cmd : JsonMap) → Masked (hideValues cmd)
  | [] => .nil
  | (_, v) :: cmd => .cons (maskedValue_hideValue v) (masked_hideValues cmd)
end

mutual
theorem sameShape_hideValue : (v : Json) → SameShape v (hideValue v)
  | .obj value => .obj (sameSkeleton_hideValues value)
  | .null | .bool _ | .num _ | .str _ | .arr _ => .leaf rfl rfl

theorem sameSkeleton_hideValues : (cmd : JsonMap) → SameSkeleton cmd (hideValues cmd)
  | [] => .nil
  | (_, v) :: cmd => .cons (sameShape_hideValue v) (sameSkeleton_hideValues cmd)
end

mutual
theorem hideValue_eq_of_sameShape : (v v' : Json) → SameShape v v' → hideValue v = hideValue v'
  | .obj value, .obj value', .obj h => congrArg Json.obj (hideValues_eq_of_sameSkeleton _ _ h)
  | _, _, .leaf hv hv' => by rw [hideValue_of_isObj_false hv, hideValue_of_isObj_false hv']

theorem hideValues_eq_of_sameSkeleton :
    (cmd cmd' : JsonMap) → SameSkeleton cmd cmd' → hideValues cmd = hideValues cmd'
  | [], [], .nil => rfl
  | (k, v) :: cmd, (_, v') :: cmd', .cons h hs => by
    rw [hideValues_cons, hideValues_cons, hideValue_eq_of_sameShape v v' h,
      hideValues_eq_of_sameSkeleton cmd cmd' hs]
end

mutual
theorem sameShape_of_hideValue_eq : (v v' : Json) → hideValue v = hideValue v' → SameShape v v'
  | .obj value, v', h => by
    obtain ⟨value', rfl⟩ := Json.eq_obj_of_isObj (by rw [← isObj_hideValue, ← h]; rfl)
    exact .obj (sameSkeleton_of_hideValues_eq _ _ (Json.obj.inj h))
  | .null, _, h | .bool _, _, h | .num _, _, h | .str _, _, h | .arr _, _, h =>
    .leaf rfl (by rw [← isObj_hideValue, ← h]; rfl)

theorem sameSkeleton_of_hideValues_eq :
    (cmd cmd' : JsonMap) → hideValues cmd = hideValues cmd' → SameSkeleton cmd cmd'
  | [], [], _ => .nil
  | [], (_, _) :: _, h | (_, _) :: _, [], h => by simp at h
  | (k, v) :: cmd, (k', v') :: cmd', h => by
    simp only [hideValues_cons, List.cons.injEq, Prod.mk.injEq] at h
    obtain ⟨⟨rfl, hv⟩, hcmd⟩ := h
    exact .cons (sameShape_of_hideValue_eq v v' hv) (sameSkeleton_of_hideValues_eq cmd cmd' hcmd)
end

/-! ## Logging -/

/-- A log entry: its text and its one field. -/
structure LogLine where
  text : String
  field : String × String

section Log

variable (debug : Bool) (unmarshal : List UInt8 → Except String JsonMap)
  (marshal : JsonMap → Except String String)

/-- `logCensoredCmd`: what it logs, if anything. `debug` is
`logging.Log.Level >= logrus.DebugLevel`. -/
def logCensoredCmd (msg : List UInt8) (receiving : Bool) : Except Err (Option LogLine) :=
  if debug then
    match unmarshal msg with
    | .error _ => .error (.new "Failed to unmarshal message")
    | .ok cmd =>
      match marshal (hideValues cmd) with
      | .error err => .ok (some ⟨"Failed to censor message", ("error", err)⟩)
      | .ok censoredMsg =>
        .ok (some ⟨(if receiving then "Receiving" else "Sending") ++ " message",
          ("msg", censoredMsg)⟩)
  else .ok none

end Log

/-- `hideValues` keeps every key and every object and masks every other value, so the censored
map is exactly the skeleton: two messages log the same line when their maps have the same
skeleton. -/
theorem hideValues_keeps_skeleton (cmd : JsonMap) :
    SameSkeleton cmd (hideValues cmd) ∧ Masked (hideValues cmd) ∧
    (∀ cmd', SameSkeleton cmd cmd' ↔ hideValues cmd = hideValues cmd') ∧
    ∀ (debug : Bool) (unmarshal : List UInt8 → Except String JsonMap)
      (marshal : JsonMap → Except String String) (msg msg' : List UInt8) (cmd' : JsonMap)
      (receiving : Bool), unmarshal msg = .ok cmd → unmarshal msg' = .ok cmd' →
      SameSkeleton cmd cmd' →
      logCensoredCmd debug unmarshal marshal msg receiving =
        logCensoredCmd debug unmarshal marshal msg' receiving := by
  refine ⟨sameSkeleton_hideValues cmd, masked_hideValues cmd,
    fun cmd' => ⟨hideValues_eq_of_sameSkeleton cmd cmd', sameSkeleton_of_hideValues_eq cmd cmd'⟩, ?_⟩
  intro debug unmarshal marshal msg msg' cmd' receiving h h' hs
  simp only [logCensoredCmd, h, h', hideValues_eq_of_sameSkeleton _ _ hs]

end BitboxWallet.Usb
