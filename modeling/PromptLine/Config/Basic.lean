import PromptLine.Text.Basic

namespace PromptLine

structure Config where
  provider : Text
  apiKey : Option Text
  baseUrl : Text
  pageSize : Nat
  maxOutputBytes : Nat
  requestTimeout : Nat
  deriving DecidableEq, Repr

def Config.default : Config where
  provider := "Gemini".toList
  apiKey := none
  baseUrl := "https://generativelanguage.googleapis.com/v1beta".toList
  pageSize := 50
  maxOutputBytes := 16384
  requestTimeout := 60

def Config.hasApiKey (c : Config) : Bool := c.apiKey.any (!·.isEmpty)

structure Layer where
  provider : Option Text := none
  apiKey : Option Text := none
  baseUrl : Option Text := none
  pageSize : Option Nat := none
  maxOutputBytes : Option Nat := none
  requestTimeout : Option Nat := none
  deriving DecidableEq, Repr

namespace Layer

def empty : Layer := {}

def overlay (base upper : Layer) : Layer where
  provider := upper.provider.or base.provider
  apiKey := upper.apiKey.or base.apiKey
  baseUrl := upper.baseUrl.or base.baseUrl
  pageSize := upper.pageSize.or base.pageSize
  maxOutputBytes := upper.maxOutputBytes.or base.maxOutputBytes
  requestTimeout := upper.requestTimeout.or base.requestTimeout

def applyTo (l : Layer) (c : Config) : Config where
  provider := l.provider.getD c.provider
  apiKey := l.apiKey.or c.apiKey
  baseUrl := l.baseUrl.getD c.baseUrl
  pageSize := l.pageSize.getD c.pageSize
  maxOutputBytes := l.maxOutputBytes.getD c.maxOutputBytes
  requestTimeout := l.requestTimeout.getD c.requestTimeout

def names : List Text :=
  ["provider", "api_key", "base_url", "page_size", "max_output_bytes",
    "request_timeout_secs"].map String.toList

end Layer

def pageSizeBound : Nat := UInt32.size

def countBound : Nat := UInt64.size

end PromptLine
