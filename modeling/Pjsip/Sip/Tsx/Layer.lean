import Pjsip.Pjlib.Hash
import Pjsip.Errno
import Pjsip.Sip.Method

/-!
# The transaction layer (`sip_transaction.c`)

The two hash tables of the layer: transactions by their key, and server transactions by the
key that a merged request shares with the one it was forked from. Only what the tables see of
a transaction is here; a transaction is told from all others by the pool it lives in.
-/

namespace Pjsip.Sip.Tsx

open Pjsip.Base Pjsip.Pjlib

/-- What the keys are made of in the top Via header of a request. -/
structure Via where
  branch : List UInt8
  host : List UInt8
  port : Nat
  deriving DecidableEq, Repr

/-- What the layer reads of a received request. -/
structure RxRequest where
  /-- The method of the request line. -/
  method : Method
  /-- Number and method of the CSeq header. -/
  cseq : Option (Nat × Method)
  via : Option Via
  /-- The tag of the From header. -/
  fromTag : Option (List UInt8)
  toTag : List UInt8
  callId : List UInt8
  deriving DecidableEq, Repr

/-- What the layer reads of a request to send. -/
structure TxRequest where
  method : Method
  hasCseq : Bool
  /-- The branch of its Via header; empty if it has none yet. -/
  branch : List UInt8
  /-- What `pj_generate_unique_string` writes, if it is asked. -/
  unique : List UInt8
  /-- The status of `pjsip_get_request_dest`. -/
  dest : SipStatus
  deriving DecidableEq, Repr

/-- `SEPARATOR` -/
def separator : UInt8 := '$'.toUInt8

def roleByte : Role → UInt8
  | .uac => 'c'.toUInt8
  | .uas => 's'.toUInt8

/-- The method as the keys have it: nothing for INVITE and ACK. -/
def methodPart (method : Method) : List UInt8 :=
  if method.id ≠ .invite ∧ method.id ≠ .ack then method.name ++ [separator] else []

/-- `create_tsx_key_2543` -/
def createTsxKey2543 (role : Role) (method : Method) (rdata : RxRequest) (includeVia : Bool) :
    Except SipStatus (List UInt8) :=
  match rdata.via, rdata.cseq, rdata.fromTag with
  | none, _, _ => .error .emissinghdr
  | _, none, _ => .error .emissinghdr
  | _, _, none => .error .emissinghdr
  | some via, some (cseq, _), some fromTag =>
    .ok ([roleByte role, separator] ++ methodPart method ++ ascii (pjUtoa cseq) ++ [separator]
      ++ fromTag ++ [separator]
      ++ rdata.callId ++ [separator]
      ++ (if includeVia then
            via.host ++ [':'.toUInt8] ++ ascii (pjUtoa via.port) ++ [separator]
          else [])
      ++ [0])

/-- `create_tsx_key_3261` -/
def createTsxKey3261 (role : Role) (method : Method) (branch : List UInt8) : List UInt8 :=
  [roleByte role, separator] ++ methodPart method ++ branch

/-- `PJSIP_RFC3261_BRANCH_ID` -/
def rfc3261BranchId : List UInt8 := ascii ['z', '9', 'h', 'G', '4', 'b', 'K']

/-- `pjsip_tsx_create_key`, for a message that has a Via header. -/
def createKey (role : Role) (method : Method) (via : Via) (rdata : RxRequest) :
    Except SipStatus (List UInt8) :=
  if strnicmpBytes via.branch rfc3261BranchId 7 = 0 then
    .ok (createTsxKey3261 role method via.branch)
  else createTsxKey2543 role method rdata true

/-- The part of `pjsip_transaction` that the tables see. -/
structure Transaction where
  pool : Nat
  role : Role
  transactionKey : List UInt8
  hashedKey : UInt32
  /-- Used by server transactions only, as its hash is. -/
  transactionKey2 : List UInt8
  hashedKey2 : UInt32
  deriving DecidableEq, Repr

/-- `mod_tsx_layer`, and the transactions it has made. -/
structure TsxLayer (rows : Nat) where
  htable : PjHashTable rows Transaction
  htable2 : PjHashTable rows Transaction
  /-- The pool that the next transaction is made in. -/
  nextPool : Nat
  /-- Transactions that were created, until they are destroyed. -/
  registered : List Transaction
  /-- Transactions that were destroyed. -/
  destroyed : List Transaction
  /-- The destroyed ones that had a send in progress (`TSX_HAS_PENDING_DESTROY`). -/
  pendingDestroy : List Transaction

variable {rows : Nat}

def TsxLayer.init (rows : Nat) : TsxLayer rows :=
  { htable := .empty, htable2 := .empty, nextPool := 0
    registered := [], destroyed := [], pendingDestroy := [] }

/-- `mod_tsx_layer_register_tsx` -/
def registerTsx (layer : TsxLayer rows) (tsx : Transaction) : Except SipStatus (TsxLayer rows) :=
  if (pjHashGetLower layer.htable tsx.transactionKey 0).isSome then .error .eexists
  else
    let htable := pjHashSetLower (some tsx.pool) layer.htable tsx.transactionKey tsx.hashedKey
      (some tsx)
    let htable2 :=
      if tsx.role = .uas then
        pjHashSetLower (some tsx.pool) layer.htable2 tsx.transactionKey2 tsx.hashedKey2 (some tsx)
      else layer.htable2
    .ok { layer with htable, htable2, registered := tsx :: layer.registered }

/-- `mod_tsx_layer_unregister_tsx` -/
def unregisterTsx (layer : TsxLayer rows) (tsx : Transaction) : TsxLayer rows :=
  let htable := pjHashSetLower none layer.htable tsx.transactionKey tsx.hashedKey none
  let htable2 :=
    if tsx.role = .uas then
      pjHashSetLower none layer.htable2 tsx.transactionKey2 tsx.hashedKey2 none
    else layer.htable2
  { layer with htable, htable2 }

/-- Registers a transaction made in a pool of its own. A transaction that is not registered
is shut down again. -/
def addTsx (layer : TsxLayer rows) (tsx : Transaction) : TsxLayer rows × SipStatus :=
  let layer := { layer with nextPool := layer.nextPool + 1 }
  match registerTsx layer tsx with
  | .error status => (layer, status)
  | .ok layer => (layer, .success)

/-- The branch of a client transaction. -/
def uacBranch (tdata : TxRequest) : List UInt8 :=
  if tdata.branch.length = 0 then rfc3261BranchId ++ [80, 106] ++ tdata.unique else tdata.branch

/-- `pjsip_tsx_create_uac2` -/
def createUac (layer : TsxLayer rows) (tdata : TxRequest) : TsxLayer rows × SipStatus :=
  if tdata.method.id = .ack then (layer, .einvalidop)
  else if !tdata.hasCseq then (layer, .emissinghdr)
  else
    let key := createTsxKey3261 .uac tdata.method (uacBranch tdata)
    if tdata.dest ≠ .success then ({ layer with nextPool := layer.nextPool + 1 }, tdata.dest)
    else addTsx layer ⟨layer.nextPool, .uac, key, pjHashCalcTolower 0 key, [], 0⟩

/-- `pjsip_tsx_create_uas2` -/
def createUas (layer : TsxLayer rows) (rdata : RxRequest) : TsxLayer rows × SipStatus :=
  if rdata.method.id = .ack then (layer, .einvalidop)
  else
    match rdata.cseq, rdata.via with
    | none, _ => (layer, .emissinghdr)
    | _, none => (layer, .emissinghdr)
    | some (_, cseqMethod), some via =>
      if !methodCmp rdata.method cseqMethod then (layer, .einvalidhdr)
      else
        match createKey .uas rdata.method via rdata,
            createTsxKey2543 .uas rdata.method rdata false with
        | .error status, _ => ({ layer with nextPool := layer.nextPool + 1 }, status)
        | _, .error status => ({ layer with nextPool := layer.nextPool + 1 }, status)
        | .ok key, .ok key2 =>
          addTsx layer
            ⟨layer.nextPool, .uas, key, pjHashCalcTolower 0 key, key2, pjHashCalcTolower 0 key2⟩

/-- `pjsip_tsx_detect_merged_requests`. The method is that of the CSeq header. -/
def detectMergedRequests (layer : TsxLayer rows) (rdata : RxRequest) : Option Transaction :=
  if rdata.toTag.length ≠ 0 then none
  else
    match rdata.cseq, rdata.via with
    | some (_, method), some via =>
      match createKey .uas method via rdata with
      | .error _ => none
      | .ok key =>
        if (pjHashGetLower layer.htable key 0).isSome then none
        else
          match createTsxKey2543 .uas method rdata false with
          | .error _ => none
          | .ok key2 => pjHashGetLower layer.htable2 key2 0
    | _, _ => none

/-- `tsx_set_state` to Destroyed, with what `tsx_shutdown` does if a send is in progress. -/
def destroyTsx (layer : TsxLayer rows) (tsx : Transaction) (sending : Bool) : TsxLayer rows :=
  let layer := unregisterTsx layer tsx
  { layer with
    registered := layer.registered.erase tsx
    destroyed := tsx :: layer.destroyed
    pendingDestroy := if sending then tsx :: layer.pendingDestroy else layer.pendingDestroy }

/-- The send of a destroyed transaction ends: its state is set to Destroyed once more. -/
def sendComplete (layer : TsxLayer rows) (tsx : Transaction) : TsxLayer rows :=
  let layer := unregisterTsx layer tsx
  { layer with pendingDestroy := layer.pendingDestroy.erase tsx }

/-- What happens to the tables of the layer. -/
inductive LayerAct where
  | createUac (tdata : TxRequest)
  | createUas (rdata : RxRequest)
  | destroy (tsx : Transaction) (sending : Bool)
  | sendComplete (tsx : Transaction)

def layerStep (layer : TsxLayer rows) : LayerAct → Option (TsxLayer rows × SipStatus)
  | .createUac tdata => some (createUac layer tdata)
  | .createUas rdata => some (createUas layer rdata)
  | .destroy tsx sending =>
    if tsx ∈ layer.registered then some (destroyTsx layer tsx sending, .success) else none
  | .sendComplete tsx =>
    if tsx ∈ layer.pendingDestroy then some (sendComplete layer tsx, .success) else none

end Pjsip.Sip.Tsx
