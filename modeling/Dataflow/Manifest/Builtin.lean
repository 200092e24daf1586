import Dataflow.Manifest.Basic

/-!
# The built-in manifest

The node types of a media workflow editor, for graphs that come without a
manifest of their own.
-/

namespace Dataflow

namespace Builtin

def half : Double := ⟨false, 1022 <<< 52, by decide⟩

def textInput : NodeType where
  name? := "Text Input"
  category := "Input"
  description :=
    "Emit plain text entered in params. No inputs → Output: text. Use for prompts, "
      ++ "instructions, or lists."
  inputs? := some 0
  outputs? := some 1
  defaults := .ofList [
    ("text", .string "")]
  ports := {
    output := "text" }
  hints? := some {
    purpose? := "Emit user-provided text for downstream processing"
    whenToUse? := "You have instructions, a prompt, or any raw text to feed other nodes"
    notFor? := "Images, audio, or binary content"
    preconditions? := "No upstream input required"
    postconditions? := "Emits a text object"
    tags := ["source", "prompt", "text"] }

def imageInput : NodeType where
  name? := "Image Input"
  category := "Input"
  description :=
    "Provide an image (file or data URL). No inputs → Output: image. Use as source for "
      ++ "editing, overlay, or export."
  inputs? := some 0
  outputs? := some 1
  defaults := .ofList [
    ("fileName", .null),
    ("imageData", .null)]
  ports := {
    output := "image" }
  hints? := some {
    purpose? := "Introduce an image into the graph"
    whenToUse? := "You need to edit, overlay, or export an existing image"
    notFor? := "Generating new images from prompts"
    preconditions? := "No upstream input required"
    postconditions? := "Emits an image object"
    tags := ["source", "image"] }

def videoInput : NodeType where
  name? := "Video Input"
  category := "Input"
  description :=
    "Upload a local video file. No inputs → Output: video. Provides an object URL usable "
      ++ "by downstream nodes (e.g., Video Export)."
  inputs? := some 0
  outputs? := some 1
  defaults := .ofList [
    ("videoFile", .null),
    ("videoFileName", .null)]
  ports := {
    output := "video" }
  hints? := some {
    purpose? := "Introduce a video into the graph"
    whenToUse? := "You want to work with an existing local video"
    notFor? := "Generating a video from text or image"
    preconditions? := "No upstream input required"
    postconditions? := "Emits a video object with object URL"
    tags := ["source", "video"] }

def geminiText2Image : NodeType where
  name? := "Gemini Text2Image"
  category := "AI"
  description :=
    "Generate an image from a text prompt. Input: text → Output: image. Gemini key "
      ++ "enables real generation; otherwise returns a local canvas preview."
  inputs? := some 1
  outputs? := some 1
  requiresInput := true
  defaults := .ofList [
    ("aspectRatio", .string "16:9")]
  ports := {
    inputs := [{ kind := "text" }]
    output := "image" }
  hints? := some {
    purpose? := "Image generation from text"
    whenToUse? := "You have a prompt and need a background or hero image"
    notFor? := "Editing an existing image"
    preconditions? := "Requires text prompt; optional apiKeys.gemini for real output"
    postconditions? := "Emits an image respecting aspectRatio"
    requiresKeys := ["gemini"]
    tags := ["image", "generation", "thumbnail"] }

def geminiEditImage : NodeType where
  name? := "Gemini EditImage"
  category := "AI"
  description :=
    "Edit an image using a text instruction. Inputs: image + text → Output: image. "
      ++ "Requires Gemini key; otherwise enhancement fallback."
  inputs? := some 2
  outputs? := some 1
  requiresInput := true
  ports := {
    inputs := [
      { kind := "image", role? := some "image" },
      { kind := "text", role? := some "instruction" }]
    output := "image"
    mode := .multi }
  hints? := some {
    purpose? := "Image editing guided by a text instruction"
    whenToUse? := "You need to enhance or modify an existing image with a prompt"
    notFor? := "Creating an image from scratch"
    preconditions? := "Requires image and text; apiKeys.gemini required for real edits"
    postconditions? := "Emits an edited image"
    requiresKeys := ["gemini"]
    tags := ["image", "edit", "enhance"] }

def briaRemove : NodeType where
  name? := "BRIA Background"
  category := "AI"
  description :=
    "Remove background from an image. Input: image → Output: image (transparent). Uses "
      ++ "FalAI BRIA; fallback heuristic if unavailable."
  inputs? := some 1
  outputs? := some 1
  requiresInput := true
  ports := {
    inputs := [{ kind := "image" }]
    output := "image" }
  hints? := some {
    purpose? := "Background removal/matting"
    whenToUse? := "You need a transparent cutout of a subject"
    notFor? := "Complex compositing or text overlays"
    preconditions? := "Requires image; FalAI key recommended"
    postconditions? := "Emits transparent-background image when successful"
    requiresKeys := ["falai"]
    proxyHint? := "fal.run may need a CORS-enabled proxy"
    tags := ["image", "matte", "cutout", "background"] }

def textOverlay : NodeType where
  name? := "Text Overlay"
  category := "Design"
  description :=
    "Render text over an optional background image. Optional input: image → Output: "
      ++ "image. Supports position, color, and stroke."
  inputs? := some 0
  outputs? := some 1
  defaults := .ofList [
    ("alignment", .string "center"),
    ("backgroundColor", .string "transparent"),
    ("color", .string "#FFFFFF"),
    ("fontSize", .ofNat 72),
    ("positionX", .ofNat 50),
    ("positionY", .ofNat 50),
    ("strokeColor", .string "transparent"),
    ("text", .string "TEXT")]
  ports := {
    inputs := [{ kind := "image", optional := true }]
    output := "image" }
  hints? := some {
    purpose? := "Add a title or label over an image/background"
    whenToUse? := "You need to place text onto a banner or thumbnail"
    notFor? := "Cutouts or fusing multiple layers"
    preconditions? := "Optional image input; otherwise renders on solid/transparent background"
    postconditions? := "Emits an image with text overlay"
    tags := ["design", "overlay", "title"] }

def layerFusion : NodeType where
  name? := "Layer Fusion"
  category := "Design"
  description :=
    "Composite multiple images into one. Inputs: 2+ images → Output: image. Preserves "
      ++ "transparent overlays."
  inputs? := some 3
  outputs? := some 1
  requiresInput := true
  ports := {
    inputs := [{ kind := "image" }]
    output := "image"
    mode := .variadic
    minInputs? := some 2 }
  hints? := some {
    purpose? := "Blend or stack multiple images"
    whenToUse? := "You have background + overlays and need a single composite"
    notFor? := "Exporting or adding text (use textOverlay prior)"
    preconditions? := "Requires at least 2 image inputs"
    postconditions? := "Emits a fused image"
    tags := ["compose", "layers", "blend"] }

/-- The node type `export`. -/
def imageExport : NodeType where
  name? := "Export"
  category := "Output"
  description := "Export final image to a file. Input: image → Output: none (download)."
  inputs? := some 1
  outputs? := some 0
  requiresInput := true
  defaults := .ofList [
    ("format", .string "png"),
    ("height", .ofNat 1080),
    ("quality", .ofNat 95),
    ("width", .ofNat 1920)]
  ports := {
    inputs := [{ kind := "image" }]
    output := "none" }
  hints? := some {
    purpose? := "Save the final image to disk"
    whenToUse? := "You have reached the final image output"
    notFor? := "Intermediate visualization"
    preconditions? := "Requires a valid image input"
    postconditions? := "Triggers a browser download"
    tags := ["output", "download", "image"] }

def audioInput : NodeType where
  name? := "Audio Input"
  category := "Input"
  description :=
    "Provide an audio file. No inputs → Output: audio. Use for transcription or "
      ++ "TTS-driven video."
  inputs? := some 0
  outputs? := some 1
  defaults := .ofList [
    ("audioFile", .null),
    ("audioFileName", .null)]
  ports := {
    output := "audio" }
  hints? := some {
    purpose? := "Introduce audio into the graph"
    whenToUse? := "You need to transcribe or drive an avatar/video with audio"
    notFor? := "Generating speech from text (use TTS)"
    preconditions? := "No upstream input required"
    postconditions? := "Emits an audio object"
    tags := ["source", "audio"] }

def deepgramTranscribe : NodeType where
  name? := "Deepgram Transcribe"
  category := "AI"
  description :=
    "Transcribe audio to text via Deepgram. Input: audio → Output: text. Requires "
      ++ "Deepgram key; demo fallback on error."
  inputs? := some 1
  outputs? := some 1
  requiresInput := true
  ports := {
    inputs := [{ kind := "audio" }]
    output := "text" }
  hints? := some {
    purpose? := "Speech-to-text conversion"
    whenToUse? := "You need text from recorded speech/audio"
    notFor? := "Text processing without audio"
    preconditions? := "Requires audio input; apiKeys.deepgram recommended"
    postconditions? := "Emits transcribed text"
    requiresKeys := ["deepgram"]
    tags := ["speech", "transcription", "text"] }

def deepgramTranscribeSentences : NodeType where
  name? := "Deepgram Sentences"
  category := "AI"
  description :=
    "Sentence-level transcript with timestamps via Deepgram. Input: audio → Output: text "
      ++ "(lines incl. [start→end]), plus sentences[] metadata."
  inputs? := some 1
  outputs? := some 1
  requiresInput := true
  ports := {
    inputs := [{ kind := "audio" }]
    output := "text" }
  hints? := some {
    purpose? := "Timestamped sentences for editing/clipping"
    whenToUse? := "You plan to cut highlights or burn subtitles"
    notFor? := "Plain full-paragraph transcription without timing"
    preconditions? := "Requires audio input; apiKeys.deepgram required for real timestamps"
    postconditions? := "Emits text lines and sentences[] with start/end seconds"
    requiresKeys := ["deepgram"]
    tags := ["speech", "transcription", "timestamps", "editing"] }

def segmentsSelect : NodeType where
  name? := "Segments Select"
  category := "Design"
  description :=
    "Select timestamped sentences by indices (e.g., 2,5,7) into a JSON segments list. "
      ++ "Inputs: text (selection) + text (Deepgram Sentences)."
  inputs? := some 2
  outputs? := some 1
  requiresInput := true
  defaults := .ofList [
    ("maxSegments", .ofNat 20)]
  ports := {
    inputs := [
      { kind := "text", role? := some "selection" },
      { kind := "text", role? := some "transcript" }]
    output := "text"
    mode := .multi }
  hints? := some {
    purpose? := "Turn LLM-picked indices into structured segments"
    whenToUse? := "You have a numbered transcript and selected indices"
    notFor? := "Raw audio or video manipulation"
    preconditions? := "Requires Deepgram Sentences output and selection indices"
    postconditions? := "Emits JSON array in text with segments[] also attached"
    tags := ["utility", "timestamps", "selection"] }

def videoClipShorts : NodeType where
  name? := "Video Clip Shorts"
  category := "Design"
  description :=
    "Clip and merge a short video from selected segments. Inputs: video + text (segments "
      ++ "JSON). Simulate by default; tries ffmpeg.wasm if enabled."
  inputs? := some 2
  outputs? := some 1
  requiresInput := true
  defaults := .ofList [
    ("ffmpegCorePath", .string "assets/ffmpeg/ffmpeg-core.js"),
    ("ffmpegScriptUrl", .string "assets/ffmpeg/ffmpeg.min.js"),
    ("limitSegments", .ofNat 12),
    ("maxTotalDurationSec", .ofNat 60),
    ("muteAudio", .bool false),
    ("paddingMs", .ofNat 0),
    ("simulate", .bool false),
    ("targetFormat", .string "mp4")]
  ports := {
    inputs := [{ kind := "video" }, { kind := "text" }]
    output := "video"
    mode := .multi }
  hints? := some {
    purpose? := "Assemble shorts by trimming and concatenating selected sentence spans"
    whenToUse? := "You have segments JSON from Segments Select and a source video"
    notFor? := "Audio-only outputs"
    preconditions? := "Requires video and segments; ffmpeg.wasm for real trimming"
    postconditions? := "Emits a video URL (simulated or real) ready for export"
    tags := ["video", "editing", "concat"] }

def llmTextCall : NodeType where
  name? := "LLM_Text_Call"
  category := "AI"
  description :=
    "Process content with instructions via OpenAI. Inputs: text (content) + text "
      ++ "(instructions) → Output: text."
  inputs? := some 2
  outputs? := some 1
  requiresInput := true
  ports := {
    inputs := [
      { kind := "text", role? := some "content" },
      { kind := "text", role? := some "instructions" }]
    output := "text"
    mode := .multi }
  hints? := some {
    purpose? := "Transform or analyze text with an LLM"
    whenToUse? := "You have source text and specific instructions"
    notFor? := "Image/audio processing"
    preconditions? := "Requires two text inputs; apiKeys.openai required"
    postconditions? := "Emits processed text"
    requiresKeys := ["openai"]
    tags := ["LLM", "transform", "summarize", "rewrite"] }

def textDisplay : NodeType where
  name? := "Text Display"
  category := "Output"
  description :=
    "Display text for inspection. Input: text → Output: text (pass-through with display "
      ++ "metadata)."
  inputs? := some 1
  outputs? := some 1
  requiresInput := true
  ports := {
    inputs := [{ kind := "text" }]
    output := "text" }
  hints? := some {
    purpose? := "Inspect or visualize text in the UI"
    whenToUse? := "You want to quickly verify text outputs"
    notFor? := "Final file export"
    preconditions? := "Requires text input"
    postconditions? := "Emits same text downstream"
    tags := ["debug", "inspect"] }

def perplexitySearch : NodeType where
  name? := "Perplexity Search"
  category := "AI"
  description :=
    "Search Perplexity for Wikipedia pages for entities. Input: text (entities) → "
      ++ "Output: text (Title - URL list). Requires key; proxy for CORS."
  inputs? := some 1
  outputs? := some 1
  requiresInput := true
  defaults := .ofList [
    ("model", .string "sonar-small"),
    ("perEntity", .ofNat 2),
    ("wikipediaOnly", .bool true)]
  ports := {
    inputs := [{ kind := "text" }]
    output := "text" }
  hints? := some {
    purpose? := "Entity → authoritative links lookup"
    whenToUse? := "You have entities and need their Wikipedia URLs"
    notFor? := "General-purpose LLM text transformation"
    preconditions? := "Requires apiKeys.perplexity; set perEntity; proxy recommended for CORS"
    postconditions? := "Emits newline-separated list: Title - URL"
    requiresKeys := ["perplexity"]
    proxyHint? := "Use a CORS-enabled proxy (perplexityProxy) if blocked"
    tags := ["research", "retrieval", "wiki"] }

def falTextToVideo : NodeType where
  name? := "FAL Text→Video"
  category := "AI"
  description :=
    "Generate a short video from a text prompt (Veo 3/Kling). Input: text → Output: "
      ++ "video. FalAI key required; simulate available."
  inputs? := some 1
  outputs? := some 1
  requiresInput := true
  defaults := .ofList [
    ("aspectRatio", .string "16:9"),
    ("cfgScale", .number (.double half)),
    ("durationSec", .ofNat 5),
    ("fps", .ofNat 24),
    ("model", .string "kling-2.5"),
    ("negativePrompt", .string "blur, distort, low quality"),
    ("resolution", .string "720p"),
    ("simulate", .bool false)]
  ports := {
    inputs := [{ kind := "text" }]
    output := "video" }
  hints? := some {
    purpose? := "Video generation from a text prompt"
    whenToUse? := "You need a short illustrative clip from text"
    notFor? := "Animating an existing image (use image→video)"
    preconditions? := "Requires text input; apiKeys.falai required for real output"
    postconditions? := "Emits a video URL or simulated output"
    requiresKeys := ["falai"]
    tags := ["video", "generation"] }

def falImageToVideo : NodeType where
  name? := "FAL Image→Video"
  category := "AI"
  description :=
    "Animate an image into a short video (Kling) or avatar lip-sync (Omnihuman). Inputs: "
      ++ "image (+ audio for Omnihuman) → Output: video. Simulate available."
  inputs? := some 2
  outputs? := some 1
  requiresInput := true
  defaults := .ofList [
    ("aspectRatio", .string "16:9"),
    ("authScheme", .string "key"),
    ("durationSec", .ofNat 4),
    ("endpointOverride", .string ""),
    ("fps", .ofNat 24),
    ("model", .string "kling-2.5"),
    ("resolution", .string "720p"),
    ("simulate", .bool true),
    ("sourceAudioUrl", .string ""),
    ("sourceImageUrl", .string "")]
  ports := {
    inputs := [{ kind := "image" }, { kind := "audio", optional := true }]
    output := "video"
    mode := .multi }
  hints? := some {
    purpose? := "Animate a single image into motion or an avatar"
    whenToUse? := "You have an image to animate; Omnihuman needs audio"
    notFor? := "Free-form video from text (use text→video)"
    preconditions? :=
      "Requires image; audio required for Omnihuman; apiKeys.falai required. Set "
        ++ "apiKeys.falProxy to a CORS-enabled proxy to avoid browser blocks."
    postconditions? := "Emits a video URL or simulated output"
    requiresKeys := ["falai"]
    proxyHint? :=
      "Use a CORS-enabled proxy (falProxy) if requests to fal.run are blocked; node "
        ++ "auto-polls queue with logs."
    tags := ["video", "animate", "avatar"] }

def videoToAudio : NodeType where
  name? := "Video → Audio"
  category := "Design"
  description :=
    "Extract the audio track from a video. Input: video → Output: audio (copy via "
      ++ "ffmpeg.wasm when possible; realtime fallback)."
  inputs? := some 1
  outputs? := some 1
  requiresInput := true
  defaults := .ofList [
    ("ffmpegCorePath", .string "assets/ffmpeg/ffmpeg-core.js"),
    ("ffmpegScriptUrl", .string "assets/ffmpeg/ffmpeg.min.js"),
    ("format", .string "m4a"),
    ("mode", .string "ffmpeg")]
  ports := {
    inputs := [{ kind := "video" }]
    output := "audio" }
  hints? := some {
    purpose? := "Derive audio from a video for further processing"
    whenToUse? := "You need to transcribe or process the audio from a video"
    notFor? := "Direct audio uploads (use Audio Input)"
    preconditions? :=
      "Requires a video URL/file; ffmpeg.wasm preferred; realtime capture as fallback"
    postconditions? := "Emits an audio object compatible with Deepgram Transcribe"
    tags := ["video", "audio", "extract", "transcription"] }

def chatterboxTTS : NodeType where
  name? := "Chatterbox TTS"
  category := "AI"
  description :=
    "Convert text to speech (Chatterbox via Fal). Input: text → Output: audio. Simulated "
      ++ "beep if unavailable."
  inputs? := some 1
  outputs? := some 1
  requiresInput := true
  defaults := .ofList [
    ("speed", .ofNat 1),
    ("voice", .string "en_us_001")]
  ports := {
    inputs := [{ kind := "text" }]
    output := "audio" }
  hints? := some {
    purpose? := "Generate speech audio from text"
    whenToUse? := "You need audio narration or voiceover from text"
    notFor? := "Transcribing audio to text"
    preconditions? := "Requires text input; apiKeys.falai recommended"
    postconditions? := "Emits an audio object or simulated beep"
    requiresKeys := ["falai"]
    tags := ["audio", "tts", "voice"] }

def videoExport : NodeType where
  name? := "Video Export"
  category := "Output"
  description :=
    "Download final video file. Input: video → Output: none (download). Warns if "
      ++ "upstream is simulated."
  inputs? := some 1
  outputs? := some 0
  requiresInput := true
  defaults := .ofList [
    ("fileName", .string "nlpflow_video"),
    ("format", .string "mp4")]
  ports := {
    inputs := [{ kind := "video" }]
    output := "none" }
  hints? := some {
    purpose? := "Save the final video to disk"
    whenToUse? := "You have reached the final video output"
    notFor? := "Intermediate preview or processing"
    preconditions? := "Requires a video URL from upstream"
    postconditions? := "Triggers a browser download"
    tags := ["output", "download", "video"] }

def audioExport : NodeType where
  name? := "Audio Export"
  category := "Output"
  description := "Download final audio file. Input: audio → Output: none (download)."
  inputs? := some 1
  outputs? := some 0
  requiresInput := true
  defaults := .ofList [
    ("fileName", .string "nlpflow_audio"),
    ("format", .string "wav")]
  ports := {
    inputs := [{ kind := "audio" }]
    output := "none" }
  hints? := some {
    purpose? := "Save the final audio to disk"
    whenToUse? := "You have produced final audio"
    notFor? := "Interim audio inspection"
    preconditions? := "Requires audio source/URL"
    postconditions? := "Triggers a browser download"
    tags := ["output", "download", "audio"] }

def textExport : NodeType where
  name? := "Text Export"
  category := "Output"
  description := "Save text to a file (txt/json). Input: text → Output: none (download)."
  inputs? := some 1
  outputs? := some 0
  requiresInput := true
  defaults := .ofList [
    ("fileName", .string "nlpflow_text"),
    ("format", .string "txt"),
    ("pretty", .bool true)]
  ports := {
    inputs := [{ kind := "text" }]
    output := "none" }
  hints? := some {
    purpose? := "Export text results to disk"
    whenToUse? := "You need to persist text output"
    notFor? := "Visual display only"
    preconditions? := "Requires text input"
    postconditions? := "Triggers a browser download"
    tags := ["output", "download", "text"] }

end Builtin

def Manifest.builtin : Manifest where
  types := .ofList [
    ("audioExport", Builtin.audioExport),
    ("audioInput", Builtin.audioInput),
    ("briaRemove", Builtin.briaRemove),
    ("chatterboxTTS", Builtin.chatterboxTTS),
    ("deepgramTranscribe", Builtin.deepgramTranscribe),
    ("deepgramTranscribeSentences", Builtin.deepgramTranscribeSentences),
    ("export", Builtin.imageExport),
    ("falImageToVideo", Builtin.falImageToVideo),
    ("falTextToVideo", Builtin.falTextToVideo),
    ("geminiEditImage", Builtin.geminiEditImage),
    ("geminiText2Image", Builtin.geminiText2Image),
    ("imageInput", Builtin.imageInput),
    ("layerFusion", Builtin.layerFusion),
    ("llmTextCall", Builtin.llmTextCall),
    ("perplexitySearch", Builtin.perplexitySearch),
    ("segmentsSelect", Builtin.segmentsSelect),
    ("textDisplay", Builtin.textDisplay),
    ("textExport", Builtin.textExport),
    ("textInput", Builtin.textInput),
    ("textOverlay", Builtin.textOverlay),
    ("videoClipShorts", Builtin.videoClipShorts),
    ("videoExport", Builtin.videoExport),
    ("videoInput", Builtin.videoInput),
    ("videoToAudio", Builtin.videoToAudio)]

end Dataflow
