import Mathlib.Data.List.Basic

/-! # JSON values and the device session (`devices/bitbox/device.go`)

`json.Unmarshal` into `map[string]interface{}` gives objects, arrays, strings, numbers, booleans
and `null`. Numbers are `float64` in Go; every number the code reads is an integer code, so they
are integers here.

A `Device` holds the session flags and talks to the device through its communication layer. The
layer is seen by the requests it was handed and the reply it gives to each history of requests:
a reply is a JSON map, or an error (a device error among them).

A device call runs on the session and ends with a value, a returned error or a panic; it changes
the session either way.
-/

namespace BitboxWallet

inductive Json where
  | null
  | bool (b : Bool)
  | num (n : Int)
  | str (s : String)
  | arr (xs : List Json)
  | obj (kvs : List (String × Json))

/-- Whether a value is a `map[string]interface{}`. -/
def Json.isObj : Json → Bool
  | .obj _ => true
  | _ => false

/-- A `map[string]interface{}`. -/
abbrev JsonMap := List (String × Json)

namespace JsonMap

variable (m : JsonMap) (key : String)

/-- `m[key].(string)`. -/
def string? : Option String :=
  match m.lookup key with
  | some (.str s) => some s
  | _ => none

/-- `m[key].(bool)`. -/
def bool? : Option Bool :=
  match m.lookup key with
  | some (.bool b) => some b
  | _ => none

/-- `m[key].(map[string]interface{})`. -/
def map? : Option JsonMap :=
  match m.lookup key with
  | some (.obj kvs) => some kvs
  | _ => none

/-- `m[key].(float64)`. -/
def num? : Option Int :=
  match m.lookup key with
  | some (.num n) => some n
  | _ => none

/-- `m[key].([]interface{})`. -/
def array? : Option (List Json) :=
  match m.lookup key with
  | some (.arr xs) => some xs
  | _ => none

end JsonMap

end BitboxWallet

namespace BitboxWallet.Bitbox

/-- A Go `error`: a device `*Error`, an `errp.New`, or one wrapped by `errp.WithMessage`. -/
inductive Err where
  | dbb (code : Int) (message : String)
  | new (message : String)
  | withMessage (cause : Err) (message : String)

/-- `errp.Cause`. -/
def Err.cause : Err → Err
  | .withMessage e _ => e.cause
  | e => e

/-- `err.Error()`. -/
def Err.error : Err → String
  | .dbb _ message => message
  | .new message => message
  | .withMessage cause message => message ++ ": " ++ cause.error

/-- How a call ends when it does not return a value. -/
inductive Failure where
  | error (e : Err)
  | panic (message : String)

/-- A message handed to the communication layer: `SendPlain(msg)` or `SendEncrypt(msg, password)`,
with the message before `json.Marshal`. -/
inductive Request where
  | plain (msg : Json)
  | encrypt (msg : Json) (password : String)

structure Communication where
  sent : List Request
  reply : List Request → Except Err JsonMap

/-- The session. `bootloader` is `bootloaderStatus != nil`. -/
structure Device where
  communication : Communication
  bootloader : Bool
  initialized : Bool
  password : String
  seeded : Bool

/-- The flags a state-changing call may change. -/
def Device.session (d : Device) : Bool × String × Bool := (d.initialized, d.password, d.seeded)

def DeviceM (α : Type) : Type := Device → Except Failure α × Device

instance : Monad DeviceM where
  pure a := fun d => (.ok a, d)
  bind x f := fun d =>
    match x d with
    | (.ok a, d') => f a d'
    | (.error e, d') => (.error e, d')

namespace DeviceM

variable {α β : Type}

theorem pure_apply (a : α) (d : Device) : (pure a : DeviceM α) d = (.ok a, d) := rfl

theorem bind_apply (x : DeviceM α) (f : α → DeviceM β) (d : Device) :
    (x >>= f) d = match x d with
      | (.ok a, d') => f a d'
      | (.error e, d') => (.error e, d') := rfl

def fail (e : Err) : DeviceM α := fun d => (.error (.error e), d)

def panic (message : String) : DeviceM α := fun d => (.error (.panic message), d)

def get : DeviceM Device := fun d => (.ok d, d)

def modify (f : Device → Device) : DeviceM Unit := fun d => (.ok (), f d)

/-- `errp.WithMessage(err, message)` on an error of `x`. -/
def withMessage (x : DeviceM α) (message : String) : DeviceM α := fun d =>
  match x d with
  | (.error (.error e), d') => (.error (.error (.withMessage e message)), d')
  | r => r

/-- `v, err := x()`: the error comes back as a value; a panic still ends the call. -/
def attempt (x : DeviceM α) : DeviceM (Except Err α) := fun d =>
  match x d with
  | (.ok a, d') => (.ok (.ok a), d')
  | (.error (.error e), d') => (.ok (.error e), d')
  | (.error (.panic p), d') => (.error (.panic p), d')

end DeviceM

open DeviceM

/-- One round trip through the communication layer. -/
def call (req : Request) : DeviceM JsonMap := fun d =>
  let sent := d.communication.sent ++ [req]
  let d' := { d with communication := { d.communication with sent } }
  match d.communication.reply sent with
  | .ok reply => (.ok reply, d')
  | .error e => (.error (.error e), d')

/-- The session after `reqs` were handed to the communication layer. -/
def Device.record (d : Device) (reqs : List Request) : Device :=
  { d with communication := { d.communication with sent := d.communication.sent ++ reqs } }

namespace Device

variable (d : Device) (reqs reqs' : List Request)

@[simp] theorem record_sent : (d.record reqs).communication.sent = d.communication.sent ++ reqs :=
  rfl

@[simp] theorem record_reply : (d.record reqs).communication.reply = d.communication.reply := rfl

@[simp] theorem record_password : (d.record reqs).password = d.password := rfl

@[simp] theorem record_nil : d.record [] = d := by simp [record]

@[simp] theorem record_record : (d.record reqs).record reqs' = d.record (reqs ++ reqs') := by
  simp [record]

end Device

theorem call_apply (req : Request) (d : Device) :
    call req d = match d.communication.reply (d.communication.sent ++ [req]) with
      | .ok reply => (.ok reply, d.record [req])
      | .error e => (.error (.error e), d.record [req]) := rfl

/-- `sendPlain(key, val)`: `SendPlain` of `{key: val}`. -/
def sendPlain (key val : String) : DeviceM JsonMap := call (.plain (.obj [(key, .str val)]))

/-- `send(value, password)`: `SendEncrypt` of `value`. -/
def send (value : Json) (password : String) : DeviceM JsonMap := call (.encrypt value password)

def sendKV (key value password : String) : DeviceM JsonMap := send (.obj [(key, .str value)]) password

end BitboxWallet.Bitbox
