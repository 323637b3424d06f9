import Bindery.Dictionary

/-! # The built-in dictionary

The native types of the browser framework's interface that the managed side knows under a name of
its own: plain types and structs, and enumerations.
-/

namespace Bindery.Dictionary

/-- Plain types and structs. -/
def builtinConcrete : List (String × String) := [
  ("void", "void"),
  ("char", "byte"),
  ("int", "int"),
  ("int16", "short"),
  ("uint16", "ushort"),
  ("int32", "int"),
  ("uint32", "uint"),
  ("int64", "long"),
  ("uint64", "ulong"),
  ("float", "float"),
  ("double", "double"),
  ("size_t", "UIntPtr"),
  ("cef_string_t", "cef_string_t"),
  ("cef_string_userfree_t", "cef_string_userfree*"),
  ("cef_string_list_t", "cef_string_list*"),
  ("cef_string_map_t", "cef_string_map*"),
  ("cef_string_multimap_t", "cef_string_multimap*"),
  ("time_t", "int"),
  ("cef_window_handle_t", "IntPtr"),
  ("cef_event_handle_t", "IntPtr"),
  ("cef_cursor_handle_t", "IntPtr"),
  ("cef_base_t", "cef_base_t"),
  ("cef_base_ref_counted_t", "cef_base_ref_counted_t"),
  ("cef_base_scoped_t", "cef_base_scoped_t"),
  ("cef_color_t", "uint"),
  ("cef_urlparts_t", "cef_urlparts_t"),
  ("cef_proxy_info_t", "cef_proxy_info_t"),
  ("cef_popup_features_t", "cef_popup_features_t"),
  ("cef_browser_settings_t", "cef_browser_settings_t"),
  ("cef_time_t", "cef_time_t"),
  ("cef_cookie_t", "cef_cookie_t"),
  ("cef_settings_t", "cef_settings_t"),
  ("cef_key_event_t", "cef_key_event_t"),
  ("cef_geoposition_t", "cef_geoposition_t"),
  ("cef_point_t", "cef_point_t"),
  ("cef_size_t", "cef_size_t"),
  ("cef_rect_t", "cef_rect_t"),
  ("cef_mouse_event_t", "cef_mouse_event_t"),
  ("cef_screen_info_t", "cef_screen_info_t"),
  ("cef_page_range_t", "cef_page_range_t"),
  ("cef_cursor_info_t", "cef_cursor_info_t"),
  ("cef_request_context_settings_t", "cef_request_context_settings_t"),
  ("cef_draggable_region_t", "cef_draggable_region_t"),
  ("cef_pdf_print_settings_t", "cef_pdf_print_settings_t"),
  ("cef_composition_underline_t", "cef_composition_underline_t"),
  ("cef_touch_event_t", "cef_touch_event_t"),
  ("cef_audio_parameters_t", "cef_audio_parameters_t"),
  ("cef_media_sink_device_info_t", "cef_media_sink_device_info_t"),
  ("cef_main_args_t", "cef_main_args_t"),
  ("cef_window_info_t", "cef_window_info_t"),
  ("cef_text_input_context_t", "IntPtr"),
  ("cef_color_model_t", "CefColorModel"),
  ("cef_duplex_mode_t", "CefDuplexMode"),
  ("cef_cursor_type_t", "CefCursorType"),
  ("cef_range_t", "cef_range_t"),
  ("cef_channel_layout_t", "CefChannelLayout"),
  ("cef_text_input_mode_t", "CefTextInputMode")
]

/-- Enumerations. -/
def builtinEnums : List (String × String) := [
  ("cef_errorcode_t", "CefErrorCode"),
  ("cef_log_severity_t", "CefLogSeverity"),
  ("cef_postdataelement_type_t", "CefPostDataElementType"),
  ("cef_process_id_t", "CefProcessId"),
  ("cef_proxy_type_t", "CefProxyType"),
  ("cef_handler_statustype_t", "CefStatusMessageType"),
  ("cef_storage_type_t", "CefStorageType"),
  ("cef_thread_id_t", "CefThreadId"),
  ("cef_v8_accesscontrol_t", "CefV8AccessControl"),
  ("cef_v8_propertyattribute_t", "CefV8PropertyAttribute"),
  ("cef_value_type_t", "CefValueType"),
  ("cef_xml_encoding_type_t", "CefXmlEncoding"),
  ("cef_xml_node_type_t", "CefXmlNodeType"),
  ("cef_event_flags_t", "CefEventFlags"),
  ("cef_context_menu_type_flags_t", "CefContextMenuTypeFlags"),
  ("cef_context_menu_media_type_t", "CefContextMenuMediaType"),
  ("cef_context_menu_media_state_flags_t", "CefContextMenuMediaStateFlags"),
  ("cef_context_menu_edit_state_flags_t", "CefContextMenuEditStateFlags"),
  ("cef_dom_document_type_t", "CefDomDocumentType"),
  ("cef_dom_node_type_t", "CefDomNodeType"),
  ("cef_dom_event_category_t", "CefDomEventCategory"),
  ("cef_dom_event_phase_t", "CefDomEventPhase"),
  ("cef_jsdialog_type_t", "CefJSDialogType"),
  ("cef_menu_item_type_t", "CefMenuItemType"),
  ("cef_focus_source_t", "CefFocusSource"),
  ("cef_urlrequest_flags_t", "CefUrlRequestOptions"),
  ("cef_urlrequest_status_t", "CefUrlRequestStatus"),
  ("cef_termination_status_t", "CefTerminationStatus"),
  ("cef_path_key_t", "CefPathKey"),
  ("cef_file_dialog_mode_t", "CefFileDialogMode"),
  ("cef_geoposition_error_code_t", "CefGeopositionErrorCode"),
  ("cef_navigation_type_t", "CefNavigationType"),
  ("cef_mouse_button_type_t", "CefMouseButtonType"),
  ("cef_paint_element_type_t", "CefPaintElementType"),
  ("cef_drag_operations_mask_t", "CefDragOperationsMask"),
  ("cef_resource_type_t", "CefResourceType"),
  ("cef_transition_type_t", "CefTransitionType"),
  ("cef_uri_unescape_rule_t", "CefUriUnescapeRules"),
  ("cef_window_open_disposition_t", "CefWindowOpenDisposition"),
  ("cef_return_value_t", "CefReturnValue"),
  ("cef_json_parser_options_t", "CefJsonParserOptions"),
  ("cef_json_writer_options_t", "CefJsonWriterOptions"),
  ("cef_json_parser_error_t", "CefJsonParserError"),
  ("cef_pdf_print_margin_type_t", "CefPdfPrintMarginType"),
  ("cef_scale_factor_t", "CefScaleFactor"),
  ("cef_plugin_policy_t", "CefPluginPolicy"),
  ("cef_cert_status_t", "CefCertStatus"),
  ("cef_response_filter_status_t", "CefResponseFilterStatus"),
  ("cef_referrer_policy_t", "CefReferrerPolicy"),
  ("cef_color_type_t", "CefColorType"),
  ("cef_alpha_type_t", "CefAlphaType"),
  ("cef_cdm_registration_error_t", "CefCdmRegistrationError"),
  ("cef_ssl_version_t", "CefSslVersion"),
  ("cef_ssl_content_status_t", "CefSslContentStatus"),
  ("cef_menu_color_type_t", "CefMenuColorType"),
  ("cef_state_t", "CefState"),
  ("cef_media_route_connection_state_t", "CefMediaRouteConnectionState"),
  ("cef_media_route_create_result_t", "CefMediaRouteCreateResult"),
  ("cef_media_sink_icon_type_t", "CefMediaSinkIconType")
]

/-- The built-in dictionary, which declares no per-platform return types. -/
def builtin : Dictionary := ⟨Table.ofList builtinConcrete, Table.ofList builtinEnums, ∅⟩

end Bindery.Dictionary
