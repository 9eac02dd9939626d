/-
The settings of this library.

There are those of the connection, those of trying again, and those of each model
family, which say whether models of the family are wanted and with which options.
-/
import Parley.Settings.Resolution
import Parley.Embedding.Options

namespace Parley

namespace Schema

/-- Settings that there are none of. -/
def base : Schema := { name := "ConverseSettings" }

/-- How to reach the service. -/
def connection : Schema where
  name := "BedrockConnectionSettings"
  stem := "AWS_"
  renamed := [("timeout", "BEDROCK_TIMEOUT")]
  settings := [
    { name := "region_name", kind := .text, default := .str "us-east-1" },
    { name := "bearer_token_bedrock", kind := .secret },
    { name := "access_key_id", kind := .secret },
    { name := "secret_access_key", kind := .secret },
    { name := "session_token", kind := .secret },
    { name := "profile", kind := .text },
    { name := "timeout", kind := .real, default := .float 300.0 }]

/-- How to try again. -/
def retry : Schema where
  name := "RetrySettings"
  stem := "BEDROCK_RETRY_"
  settings := [
    { name := "max_attempts", kind := .whole, default := .int 10 },
    { name := "initial_interval", kind := .real, default := .float 2.0 },
    { name := "multiplier", kind := .real, default := .float 5.0 },
    { name := "max_interval", kind := .real, default := .float 180.0 }]

/-- What the settings of all model families have in common. -/
def provider : Schema where
  name := "BedrockProviderSettings"
  settings := [
    { name := "enabled", kind := .truth, default := .bool false },
    { name := "model", kind := .text }]

/-- What the settings of all families of chat models have in common. -/
def chat : Schema :=
  provider.extending "BedrockChatSettings" "" [
    { name := "temperature", kind := .real },
    { name := "top_p", kind := .real },
    { name := "top_k", kind := .whole },
    { name := "max_tokens", kind := .whole },
    { name := "stop_sequences", kind := .words }]

/-- The settings of a family of chat models. -/
def chatOf : Family → Schema
  | .general | .hosted => chat
  | .anthropic3 => chat.extending "Anthropic3ChatSettings" "BEDROCK_ANTHROPIC3_CHAT_"
  | .cohere => chat.extending "CohereChatSettings" "BEDROCK_COHERE_CHAT_"
  | .llama => chat.extending "LlamaChatSettings" "BEDROCK_LLAMA_CHAT_"
  | .titan => chat.extending "TitanChatSettings" "BEDROCK_TITAN_CHAT_"
  | .jurassic2 => chat.extending "Jurassic2ChatSettings" "BEDROCK_JURASSIC2_CHAT_"
  | .mistral => chat.extending "MistralChatSettings" "BEDROCK_MISTRAL_CHAT_"

/-- The settings of a family of embedding models. -/
def embeddingOf : EmbeddingFamily → Schema
  | .general => provider
  | .cohere => provider.extending "CohereEmbeddingSettings" "BEDROCK_COHERE_EMBEDDING_" [
      { name := "input_type", kind := .text },
      { name := "truncate", kind := .text }]
  | .titan => provider.extending "TitanEmbeddingSettings" "BEDROCK_TITAN_EMBEDDING_" [
      { name := "input_type", kind := .text }]

/-- All settings of this library. -/
def catalogue : List Schema :=
  [base, connection, retry, provider] ++ Family.all.map chatOf
    ++ EmbeddingFamily.all.map embeddingOf

end Schema

namespace Settings

/-- The options that the settings of a model family give: all that are set but whether the family
is wanted, with the model and the stop sequences under the names that options know them by. -/
def optionValues (s : Settings) : List (String × Given) :=
  let renamed (name option : String) : List (String × Given) :=
    let h := s.get name
    if h.isSet then [(option, h.reveal)] else []
  (s.present.filter fun e => !(["enabled", "model", "stop_sequences"].contains e.1)).map
      (fun e => (e.1, e.2.reveal))
    ++ renamed "model" "model_id" ++ renamed "stop_sequences" "stop"

end Settings

end Parley
