import ShareCheck.Access.Share
import ShareCheck.Text.Search

set_option autoImplicit false

namespace ShareCheck.Smbclient

def connectionStatuses : List String := [
    "NT_STATUS_CONNECTION_REFUSED", "NT_STATUS_HOST_UNREACHABLE", "NT_STATUS_NETWORK_UNREACHABLE",
    "NT_STATUS_IO_TIMEOUT", "NT_STATUS_UNSUCCESSFUL", "NT_STATUS_BAD_NETWORK_NAME",
    "NT_STATUS_RESOURCE_NAME_NOT_FOUND", "NT_STATUS_CONNECTION_RESET",
    "NT_STATUS_CONNECTION_DISCONNECTED"]

def connectionPhrases : List String := ["Connection to", "failed (Error NT_STATUS"]

def authStatuses : List String := [
    "NT_STATUS_LOGON_FAILURE", "NT_STATUS_WRONG_PASSWORD", "NT_STATUS_NO_SUCH_USER",
    "NT_STATUS_ACCOUNT_DISABLED", "NT_STATUS_ACCOUNT_LOCKED_OUT", "NT_STATUS_PASSWORD_EXPIRED"]

def mentions (output : List Char) (phrase : String) : Bool := Text.occurs phrase.toList output

def classify (output : List Char) : Option AccessFailure :=
  -- A failed connection counts before a refused login, and both before any other status.
  if (connectionStatuses ++ connectionPhrases).any (mentions output) then some .connection
  else if authStatuses.any (mentions output) then some .auth
  else if mentions output "NT_STATUS_" && !mentions output "NT_STATUS_OK" then some .operation
  else none

end ShareCheck.Smbclient
