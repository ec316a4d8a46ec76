import Afterveda.Onvif.Config
import Afterveda.Onvif.Utils

/-!
# The SOAP header and `require_auth`

The functions of `soap/soap_common.cpp`.  What gSOAP parses out of the message header is a tree of
pointers that may be null; here they are options over C strings.  A fault is the one kind the
services return, a sender fault with its text.
-/

namespace Afterveda.Onvif

open CText Calendar

/-! ### The header -/

/-- `_wsse__Password`. -/
structure WssePassword where
  item : Option CStr := none
  type : Option CStr := none
  deriving DecidableEq

/-- `wsse__EncodedString`. -/
structure WsseEncodedString where
  item : Option CStr := none
  deriving DecidableEq

/-- `_wsse__UsernameToken`. -/
structure UsernameToken where
  username : Option CStr := none
  password : Option WssePassword := none
  nonce : Option WsseEncodedString := none
  created : Option CStr := none
  deriving DecidableEq

/-- `_wsse__Security`. -/
structure WsseSecurity where
  usernameToken : Option UsernameToken := none
  deriving DecidableEq

/-- `SOAP_ENV__Header`. -/
structure Header where
  security : Option WsseSecurity := none
  deriving DecidableEq

/-- What a service sees of its call: the configuration (`ctx->user`), the header, the time when the
header is checked, and the library's `std::get_time`. -/
structure Context where
  config : Config
  header : Option Header
  now : ℤ
  getTime : Bytes → Option Tm

def Context.usernameToken (ctx : Context) : Option UsernameToken :=
  ctx.header.bind fun header => header.security.bind WsseSecurity.usernameToken

/-! ### Faults -/

/-- A sender fault. -/
structure Fault where
  text : Bytes
  deriving DecidableEq

/-- `soap_sender_fault(ctx, text.c_str(), nullptr)`. -/
def soapSenderFault (text : Bytes) : Fault := ⟨cString text⟩

def invalidTokenFault (token : Bytes) : Fault :=
  soapSenderFault (bytes "Invalid or unsupported token: " ++ token)

/-! ### Authentication -/

def authRequired : Fault := soapSenderFault (bytes "ONVIF authentication required")

def authFailed : Fault := soapSenderFault (bytes "ONVIF authentication failed")

/-- The digest branch of `require_auth`. -/
def checkDigest (ctx : Context) (token : UsernameToken) (password : Bytes) : Except Fault Unit :=
  match token.nonce.bind WsseEncodedString.item, token.created with
  | some nonce, some created =>
    if utcTimestampWithin ctx.getTime ctx.now created 300 = false then .error authFailed
    else
      let digestInput := base64Decode nonce
      -- an empty nonce and one that is not base64 are told apart nowhere
      if digestInput = [] then .error authFailed
      else
        let digestInput := digestInput ++ created ++ ctx.config.password
        if base64Encode (sha1 digestInput) ≠ password then .error authFailed else .ok ()
  | _, _ => .error authFailed

def requireAuth (ctx : Context) : Except Fault Unit :=
  if ctx.config.username = [] ∧ ctx.config.password = [] then .ok ()
  else
    match ctx.usernameToken with
    | none => .error authRequired
    | some token =>
      match token.username, token.password with
      | some username, some ⟨some password, type⟩ =>
        if ctx.config.username ≠ username then .error authFailed
        else if contains ((type.map Subtype.val).getD []) (bytes "PasswordDigest") then
          checkDigest ctx token password
        -- any other type is taken for `PasswordText`
        else if password.val ≠ ctx.config.password then .error authFailed
        else .ok ()
      | _, _ => .error authFailed

end Afterveda.Onvif
